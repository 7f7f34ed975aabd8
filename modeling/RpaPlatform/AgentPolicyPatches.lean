import RpaPlatform.AgentLifecycle
import RpaPlatform.AgentUpserts
import RpaPlatform.GuacamoleMapping

namespace RpaPlatform.Agents

open Tasks (Json)
open Transition

/-!
# Concurrent changes of an agent's access policy

A change through the registry's router stores the access policy in the agent's
metadata, reads the row again, provisions Guacamole from the mapping found
there and stores the mapping that comes back.  The mapping contains the policy
as it was when the row was read.
-/

/-! ### Requests -/

def givenField (key : String) : Option Json → JsonObject
  | none => []
  | some value => [(key, value)]

/-- `AgentPermissionRuleRequest`. -/
structure PermissionRuleRequest where
  enabled : Option Bool := none
  minimumRole : Option Role := none
  users : Option (List String) := none
  groups : Option (List String) := none

/-- `AgentGuacamoleAccessUpdateRequest`. -/
structure AccessUpdateRequest where
  permissions : Option (List (String × PermissionRuleRequest)) := none
  /-- A dictionary has no key twice. -/
  distinct : ∀ rules ∈ permissions, (rules.map Prod.fst).Nodup := by
      exact nofun

/-- `AgentRegistryUpdateRequest`, with an access policy. -/
structure RegistryPatch where
  hostname : Option String := none
  displayName : Option String := none
  access : AccessUpdateRequest

/-- `model_dump` of a rule, without what is `None`. -/
def PermissionRuleRequest.modelDump
    (rule : PermissionRuleRequest) : JsonObject :=
  givenField "enabled" (rule.enabled.map .bool) ++
    givenField "minimum_role" (rule.minimumRole.map (.str ·.text)) ++
    givenField "users" (rule.users.map texts) ++
    givenField "groups" (rule.groups.map texts)

/-- `model_dump` of a policy, without what is `None`. -/
def AccessUpdateRequest.modelDump
    (access : AccessUpdateRequest) : JsonObject :=
  givenField "permissions"
    (access.permissions.map fun rules =>
      .obj (rules.map fun rule => (rule.1, .obj rule.2.modelDump)))

/-- A mapping as it is given to `upsert_agent`. -/
def mappingMetadata (mapping : JsonObject) : JsonObject :=
  [("guacamole", .obj mapping)]

/-- What `upsert_agent` is given first. -/
def RegistryPatch.change (patch : RegistryPatch) : AgentChange where
  hostname := strip (patch.hostname.getD "")
  displayName := strip (patch.displayName.getD "")
  metadata :=
    some (mappingMetadata [("access", .obj patch.access.modelDump)])

/-! ### Requests on their way -/

/-- Where a request is. -/
inductive PatchStage where
  | looking
  | reading (time : Int)
  | writing (time : Int) (existing : Option AgentRecord)
  | committing
  | reloading
  /-- In the thread that provisions Guacamole. -/
  | provisioning (hostname : String) (mapping : JsonObject)
  | readingBack (time : Int) (refreshed : JsonObject)
  | writingBack
      (time : Int)
      (refreshed : JsonObject)
      (existing : Option AgentRecord)
  | committingBack
  | reloadingBack
  | finished

structure PendingPatch where
  patch : RegistryPatch
  stage : PatchStage := .looking

/-- The registry and the requests on one agent. -/
structure PatchSystem where
  registry : AgentRegistry
  patches : List PendingPatch
  /-- The request whose policy was written last. -/
  lastPolicy : Option RegistryPatch := none

inductive PatchAction where
  /-- An await of a request ends. -/
  | advance (position : Nat) (now : Int)
  /-- Guacamole has been provisioned. -/
  | provision (position : Nat) (provisioned : Provisioned) (now : Int)
  /-- A request fails; what it has written stays. -/
  | fail (position : Nat)

namespace PatchSystem

variable
    (library : TextLibrary)
    (agentId : String)
    (sys : PatchSystem)

def goTo
    (position : Nat)
    (pending : PendingPatch)
    (stage : PatchStage) : PatchSystem :=
  { sys with patches := sys.patches.set position { pending with stage } }

/-- The statement of `upsert_agent`. -/
def write
    (existing : Option AgentRecord)
    (change : AgentChange)
    (time : Int) : PatchSystem :=
  { sys with
    registry :=
      sys.registry.writeAgent (mergeAgent agentId existing change time) }

/-- The host that Guacamole is provisioned for. -/
def provisionHostname (hostname : String) (mapping : JsonObject) : String :=
  orText
    (strip
      (orText hostname
        (orText (textOr library (getField mapping "target_host")) agentId)))
    agentId

/-- Once the row has been read again: there may be nothing to provision. -/
def reload (position : Nat) (pending : PendingPatch) : PatchSystem :=
  match sys.registry.getAgent agentId with
  | none =>
    sys.goTo position pending .finished
  | some updated =>
    let mapping := objectAt updated.metadata "guacamole"
    if mapping.isEmpty then
      sys.goTo position pending .finished
    else
      sys.goTo position pending
        (.provisioning
          (provisionHostname library agentId updated.hostname mapping)
          mapping)

/-- An await of a request ends. -/
def advance?
    (position : Nat)
    (pending : PendingPatch)
    (now : Int) : Option PatchSystem :=
  match pending.stage with
  | .looking =>
    match sys.registry.getAgent agentId with
    | none => some (sys.goTo position pending .finished)
    | some _ => some (sys.goTo position pending (.reading now))
  | .reading time =>
    some
      (sys.goTo position pending
        (.writing time (sys.registry.getAgent agentId)))
  | .writing time existing =>
    some
      { (sys.write agentId existing pending.patch.change time).goTo
          position pending .committing with
        lastPolicy := some pending.patch }
  | .committing =>
    some (sys.goTo position pending .reloading)
  | .reloading =>
    some (sys.reload library agentId position pending)
  | .provisioning .. =>
    none
  | .readingBack time refreshed =>
    some
      (sys.goTo position pending
        (.writingBack time refreshed (sys.registry.getAgent agentId)))
  | .writingBack time refreshed existing =>
    some
      ((sys.write agentId existing
          { metadata := some (mappingMetadata refreshed) }
          time).goTo position pending .committingBack)
  | .committingBack =>
    some (sys.goTo position pending .reloadingBack)
  | .reloadingBack =>
    some (sys.goTo position pending .finished)
  | .finished =>
    none

/-- Guacamole has been provisioned; what it raises is only logged. -/
def provision?
    (position : Nat)
    (pending : PendingPatch)
    (provisioned : Provisioned)
    (now : Int) : Option PatchSystem :=
  match pending.stage with
  | .provisioning hostname mapping =>
    some
      (sys.goTo position pending
        (match
            provisionedMapping library agentId hostname mapping provisioned with
        | none => .finished
        | some refreshed => .readingBack now refreshed))
  | _ =>
    none

/-- A request fails, or its second part is given up. -/
def fail? (position : Nat) (pending : PendingPatch) : Option PatchSystem :=
  match pending.stage with
  | .finished => none
  | _ => some (sys.goTo position pending .finished)

/-- The requests before any of them is handled. -/
def started
    (registry : AgentRegistry)
    (patches : List RegistryPatch) : PatchSystem where
  registry := registry
  patches := patches.map fun patch => { patch }

def Finished : Prop :=
  ∀ pending ∈ sys.patches, pending.stage = .finished

end PatchSystem

/-- Take a step, if it can be taken. -/
def patchStep?
    (library : TextLibrary)
    (agentId : String)
    (sys : PatchSystem) : PatchAction → Option PatchSystem
  | .advance position now =>
    sys.patches[position]?.bind fun pending =>
      sys.advance? library agentId position pending now
  | .provision position provisioned now =>
    sys.patches[position]?.bind fun pending =>
      sys.provision? library agentId position pending provisioned now
  | .fail position =>
    sys.patches[position]?.bind fun pending =>
      sys.fail? position pending

/-! ### The last policy -/

def rowMetadata (stored : Option AgentRecord) : JsonObject :=
  (stored.map (·.metadata)).getD []

/-- Every rule of a request is stored as the request gives it. -/
def StoresRules
    (stored : Option AgentRecord)
    (patch : RegistryPatch) : Prop :=
  ∀ rules ∈ patch.access.permissions,
    ∀ rule ∈ rules,
      ∀ field ∈ rule.2.modelDump,
        valueAt? (rowMetadata stored)
            (accessPath ["permissions", rule.1, field.1]) =
          some field.2

/--
When all requests have been answered, the rules of the one whose policy was
written last are stored.
-/
def LastPolicyWins
    (agentId : String)
    (step : PatchSystem → PatchAction → PatchSystem → Prop) : Prop :=
  ∀ {registry : AgentRegistry} {patches : List RegistryPatch}
    {final : PatchSystem} {actions : List PatchAction},
    ParsedFields (rowMetadata (registry.getAgent agentId)) →
    Run step (.started registry patches) actions final →
    final.Finished →
    ∀ patch ∈ final.lastPolicy,
      StoresRules (final.registry.getAgent agentId) patch

/--
The condition under which the last policy stays.  When a request writes a
mapping back, the row that it has read has the stored policy, and so has the
mapping as far as it has one.
-/
def WritesBackStoredPolicy
    (agentId : String)
    (sys : PatchSystem) : PatchAction → Prop
  | .advance position _ =>
    ∀ pending ∈ sys.patches[position]?,
      ∀ time refreshed existing,
        pending.stage = .writingBack time refreshed existing →
        let stored := rowMetadata (sys.registry.getAgent agentId)
        valueAt? (rowMetadata existing) (accessPath []) =
            valueAt? stored (accessPath []) ∧
          ∀ path value,
            IsLeaf refreshed ("access" :: path) value →
            Provides (valueAt? stored (accessPath path)) value
  | _ => True

/-! ### What a request gives -/

section Requests

variable
    {rule : PermissionRuleRequest}
    {access : AccessUpdateRequest}

theorem parsedFields_rule (rule : PermissionRuleRequest) :
    ParsedFields rule.modelDump := by
  obtain ⟨enabled, minimumRole, users, groups⟩ := rule
  cases enabled <;> cases minimumRole <;> cases users <;> cases groups <;>
    simp [PermissionRuleRequest.modelDump, givenField, ParsedFields,
      Distinct, DistinctFields, distinct_texts]

theorem notObject_of_mem_rule
    {field : String × Json}
    (member : field ∈ rule.modelDump)
    (fields : JsonObject) :
    field.2 ≠ .obj fields := by
  obtain ⟨enabled, minimumRole, users, groups⟩ := rule
  intro isObject
  simp only [PermissionRuleRequest.modelDump, List.mem_append] at member
  have given :
      ∀ {key : String} {value : Option Json},
        field ∈ givenField key value → value = some (.obj fields) := by
    intro key value member
    cases value with
    | none =>
      cases member
    | some found =>
      obtain rfl := List.mem_singleton.mp member
      exact congrArg some isObject
  rcases member with ((isGiven | isGiven) | isGiven) | isGiven
  all_goals
    obtain ⟨_, _, same⟩ := Option.map_eq_some_iff.mp (given isGiven)
    cases same

theorem parsedFields_access (access : AccessUpdateRequest) :
    ParsedFields access.modelDump := by
  unfold AccessUpdateRequest.modelDump
  cases given : access.permissions with
  | none =>
    exact .nil
  | some rules =>
    have distinct := access.distinct rules given
    refine ⟨List.nodup_singleton _, ⟨?_, ?_⟩, trivial⟩
    · rw [List.map_map]
      exact distinct
    · refine distinctFields_iff.mpr fun entry member => ?_
      obtain ⟨rule, _, rfl⟩ := List.mem_map.mp member
      exact parsedFields_rule rule.2

theorem parsedFields_mappingMetadata
    {mapping : JsonObject}
    (parsed : ParsedFields mapping) :
    ParsedFields (mappingMetadata mapping) :=
  ⟨List.nodup_singleton _, parsed, trivial⟩

theorem parsedFields_policy (access : AccessUpdateRequest) :
    ParsedFields (mappingMetadata [("access", .obj access.modelDump)]) :=
  parsedFields_mappingMetadata
    ⟨List.nodup_singleton _, parsedFields_access access, trivial⟩

theorem isLeaf_access
    {rules : List (String × PermissionRuleRequest)}
    (given : access.permissions = some rules)
    {named : String × PermissionRuleRequest}
    (member : named ∈ rules)
    {field : String × Json}
    (isField : field ∈ named.2.modelDump) :
    IsLeaf (mappingMetadata [("access", .obj access.modelDump)])
      (accessPath ["permissions", named.1, field.1]) field.2 := by
  refine ⟨?_, fun entry rest => notObject_of_mem_rule isField _⟩
  have ruleFound :
      (rules.map fun rule => (rule.1, Json.obj rule.2.modelDump)).lookup
          named.1 =
        some (.obj named.2.modelDump) := by
    apply Dictionary.lookup_of_mem
    · rw [List.map_map]
      exact access.distinct rules given
    · exact List.mem_map.mpr ⟨named, member, rfl⟩
  have fieldFound : named.2.modelDump.lookup field.1 = some field.2 :=
    Dictionary.lookup_of_mem (parsedFields_rule named.2).1 isField
  unfold AccessUpdateRequest.modelDump
  rw [given]
  show valueAt? (objectAt (rules.map _) named.1) [field.1] = some field.2
  unfold objectAt
  rw [ruleFound]
  exact fieldFound

end Requests

/-! ### What a row has after a write -/

section Writes

variable
    {agentId : String}
    {sys : PatchSystem}
    {existing : Option AgentRecord}

theorem rowMetadata_write
    {change : AgentChange}
    {incoming : JsonObject}
    (given : change.metadata = some incoming)
    (time : Int) :
    rowMetadata
        ((sys.write agentId existing change time).registry.getAgent agentId) =
      mergeMetadata (rowMetadata existing) incoming := by
  have written :
      (sys.write agentId existing change time).registry.getAgent agentId =
        _ :=
    sys.registry.getAgent_writeAgent (mergeAgent agentId existing change time)
  have merged :
      (mergeAgent agentId existing change time).metadata =
        mergeMetadata (rowMetadata existing) incoming := by
    unfold mergeAgent rowMetadata
    rw [given]
    cases existing with
    | none => rfl
    | some row => rfl
  rw [written, ← merged]
  generalize sys.registry.getAgent _ = stored
  cases stored with
  | none => rfl
  | some row => rfl

theorem storesRules_write
    (patch : RegistryPatch)
    (time : Int) :
    StoresRules
      ((sys.write agentId existing patch.change time).registry.getAgent agentId)
      patch := by
  intro rules given rule member field isField
  have provides :=
    provides_mergeMetadata (parsedFields_policy patch.access)
      (isLeaf_access given member isField) (rowMetadata existing)
  rw [rowMetadata_write rfl time]
  exact provides.eq_of_notObject (notObject_of_mem_rule isField)

theorem valueAt?_accessPath_congr
    {first second : JsonObject}
    (same : valueAt? first (accessPath []) = valueAt? second (accessPath []))
    (path : List String) :
    valueAt? first (accessPath path) = valueAt? second (accessPath path) :=
  valueAt?_head_congr same path

/-- A mapping that has the stored policy leaves what is stored of it. -/
theorem valueAt?_mergeMapping
    {refreshed metadata stored : JsonObject}
    (parsed : ParsedFields refreshed)
    (current :
      valueAt? metadata (accessPath []) = valueAt? stored (accessPath []))
    (agrees :
      ∀ path value,
        IsLeaf refreshed ("access" :: path) value →
        Provides (valueAt? stored (accessPath path)) value)
    {next : String}
    {rest : List String}
    {value : Json}
    (isFound : valueAt? stored (accessPath (next :: rest)) = some value)
    (notObject : ∀ fields, value ≠ .obj fields) :
    valueAt? (mergeMetadata metadata (mappingMetadata refreshed))
        (accessPath (next :: rest)) =
      some value := by
  have below := valueAt?_accessPath_congr current
  rw [← below] at isFound
  unfold accessPath
  rw [valueAt?_mergeMetadata_inner (parsedFields_mappingMetadata parsed)
    List.lookup_cons_self]
  cases comes : refreshed.lookup "access" with
  | none =>
    rw [valueAt?, objectAt_mergeMetadata_absent comes]
    exact isFound
  | some found =>
    cases found with
    | obj policy =>
      rw [valueAt?_mergeMetadata_inner parsed comes]
      refine valueAt?_mergeMetadata_agrees (parsed.lookup comes) ?_
        isFound notObject
      rintro leafPath leaf ⟨isPolicy, bottom⟩
      cases leafPath with
      | nil => cases isPolicy
      | cons first others =>
        have provides :
            Provides (valueAt? stored (accessPath (first :: others))) leaf := by
          refine agrees (first :: others) leaf ⟨?_, bottom⟩
          rw [valueAt?, objectAt, comes]
          exact isPolicy
        rw [← below] at provides
        exact provides
    | _ =>
      -- The stored policy would not be an object.
      have provides := agrees [] _ ⟨comes, by simp⟩
      rw [← below] at provides
      have isPolicy :
          (objectAt metadata "guacamole").lookup "access" = some _ :=
        provides
      have nothing :
          objectAt (objectAt metadata "guacamole") "access" = [] := by
        rw [objectAt, isPolicy]
      have inside :
          valueAt? (objectAt (objectAt metadata "guacamole") "access")
              (next :: rest) =
            some value :=
        isFound
      rw [nothing, valueAt?_nil] at inside
      cases inside

theorem storesRules_writeBack
    {refreshed : JsonObject}
    (parsed : ParsedFields refreshed)
    {patch : RegistryPatch}
    (stores : StoresRules (sys.registry.getAgent agentId) patch)
    (current :
      valueAt? (rowMetadata existing) (accessPath []) =
        valueAt? (rowMetadata (sys.registry.getAgent agentId)) (accessPath []))
    (agrees :
      ∀ path value,
        IsLeaf refreshed ("access" :: path) value →
        Provides
          (valueAt? (rowMetadata (sys.registry.getAgent agentId))
            (accessPath path))
          value)
    (time : Int) :
    StoresRules
      ((sys.write agentId existing
          { metadata := some (mappingMetadata refreshed) }
          time).registry.getAgent agentId)
      patch := by
  intro rules given rule member field isField
  rw [rowMetadata_write rfl time]
  exact
    valueAt?_mergeMapping parsed current agrees
      (stores rules given rule member field isField)
      (notObject_of_mem_rule isField)

end Writes

/-! ### Runs -/

/-- What a request has read is parsed. -/
def PatchStage.Parsed : PatchStage → Prop
  | writing _ existing => ParsedFields (rowMetadata existing)
  | provisioning _ mapping => ParsedFields mapping
  | readingBack _ refreshed => ParsedFields refreshed
  | writingBack _ refreshed existing =>
    ParsedFields refreshed ∧ ParsedFields (rowMetadata existing)
  | _ => True

/-- The rules of the last policy are stored. -/
structure PolicyKept (agentId : String) (sys : PatchSystem) : Prop where
  parsed : ParsedFields (rowMetadata (sys.registry.getAgent agentId))
  stages : ∀ pending ∈ sys.patches, pending.stage.Parsed
  kept :
    ∀ patch ∈ sys.lastPolicy, StoresRules (sys.registry.getAgent agentId) patch

namespace PolicyKept

variable
    {library : TextLibrary}
    {agentId : String}
    {before after : PatchSystem}
    {position : Nat}
    {pending : PendingPatch}

section Keeping

variable
    (holds : PolicyKept agentId before)
include holds

theorem goTo
    {stage : PatchStage}
    (parsed : stage.Parsed) :
    PolicyKept agentId (before.goTo position pending stage) where
  parsed := holds.parsed
  stages := by
    intro current member
    rcases List.mem_or_eq_of_mem_set member with earlier | rfl
    · exact holds.stages current earlier
    · exact parsed
  kept := holds.kept

theorem write
    {existing : Option AgentRecord}
    (read : ParsedFields (rowMetadata existing))
    {change : AgentChange}
    {incoming : JsonObject}
    (given : change.metadata = some incoming)
    (parsed : ParsedFields incoming)
    (time : Int)
    {lastPolicy : Option RegistryPatch}
    (kept :
      ∀ patch ∈ lastPolicy,
        StoresRules
          ((before.write agentId existing change time).registry.getAgent
            agentId)
          patch) :
    PolicyKept agentId
      { before.write agentId existing change time with lastPolicy } where
  parsed := by
    show ParsedFields
      (rowMetadata
        ((before.write agentId existing change time).registry.getAgent agentId))
    rw [rowMetadata_write given time]
    exact parsedFields_mergeMetadata read incoming parsed
  stages := holds.stages
  kept := kept

theorem reload
    (position : Nat)
    (pending : PendingPatch) :
    PolicyKept agentId (before.reload library agentId position pending) := by
  unfold PatchSystem.reload
  split
  · exact holds.goTo trivial
  · rename_i updated isUpdated
    dsimp only
    split
    · exact holds.goTo trivial
    · apply holds.goTo
      have parsed := holds.parsed
      rw [isUpdated] at parsed
      show ParsedFields (objectAt updated.metadata "guacamole")
      unfold objectAt
      split
      · rename_i mapping found
        exact ParsedFields.lookup parsed found
      · exact .nil

/-- An await that ends keeps the rules of the last policy. -/
theorem advance
    (isPending : before.patches[position]? = some pending)
    {now : Int}
    (writesBack : WritesBackStoredPolicy agentId before (.advance position now))
    (taken :
      before.advance? library agentId position pending now = some after) :
    PolicyKept agentId after := by
  have stageParsed :=
    holds.stages pending (List.mem_of_getElem? isPending)
  unfold PatchSystem.advance? at taken
  split at taken
  · split at taken
    · cases taken
      exact holds.goTo trivial
    · cases taken
      exact holds.goTo trivial
  · cases taken
    exact holds.goTo holds.parsed
  · rename_i time existing isWriting
    rw [isWriting] at stageParsed
    cases taken
    have written :=
      holds.write stageParsed (show pending.patch.change.metadata = _ from rfl)
        (parsedFields_policy pending.patch.access) time
        (show ∀ patch ∈ some pending.patch, StoresRules _ patch by
          intro patch isLast
          cases isLast
          exact storesRules_write pending.patch time)
    exact written.goTo trivial
  · cases taken
    exact holds.goTo trivial
  · cases taken
    exact holds.reload position pending
  · cases taken
  · rename_i time refreshed isReading
    rw [isReading] at stageParsed
    cases taken
    exact holds.goTo ⟨stageParsed, holds.parsed⟩
  · rename_i time refreshed existing isWriting
    rw [isWriting] at stageParsed
    cases taken
    obtain ⟨current, agrees⟩ :=
      writesBack pending isPending time refreshed existing isWriting
    have written :=
      holds.write stageParsed.2
        (show
          ({ metadata := some (mappingMetadata refreshed) } :
              AgentChange).metadata = _ from rfl)
        (parsedFields_mappingMetadata stageParsed.1) time
        (fun patch isLast =>
          storesRules_writeBack stageParsed.1 (holds.kept patch isLast)
            current agrees time)
    exact written.goTo trivial
  · cases taken
    exact holds.goTo trivial
  · cases taken
    exact holds.goTo trivial
  · cases taken

theorem provision
    (isPending : before.patches[position]? = some pending)
    {provisioned : Provisioned}
    {now : Int}
    (taken :
      before.provision? library agentId position pending provisioned now =
        some after) :
    PolicyKept agentId after := by
  have stageParsed :=
    holds.stages pending (List.mem_of_getElem? isPending)
  unfold PatchSystem.provision? at taken
  split at taken
  · rename_i hostname mapping isProvisioning
    rw [isProvisioning] at stageParsed
    cases taken
    apply holds.goTo
    split
    · trivial
    · rename_i refreshed isRefreshed
      exact parsedFields_provisionedMapping stageParsed isRefreshed
  · cases taken

theorem step
    {action : PatchAction}
    (writesBack : WritesBackStoredPolicy agentId before action)
    (taken : patchStep? library agentId before action = some after) :
    PolicyKept agentId after := by
  cases action with
  | advance position now =>
    obtain ⟨pending, isPending, went⟩ := Option.bind_eq_some_iff.mp taken
    exact holds.advance isPending writesBack went
  | provision position provisioned now =>
    obtain ⟨pending, isPending, went⟩ := Option.bind_eq_some_iff.mp taken
    exact holds.provision isPending went
  | fail position =>
    obtain ⟨pending, isPending, went⟩ := Option.bind_eq_some_iff.mp taken
    unfold PatchSystem.fail? at went
    split at went
    · cases went
    · cases went
      exact holds.goTo trivial

end Keeping

end PolicyKept

/-- Where the condition is met, the last policy stays. -/
theorem lastPolicyWins_of_writesBackStoredPolicy
    (library : TextLibrary)
    (agentId : String) :
    LastPolicyWins agentId
      (Guarded (Fires (patchStep? library agentId))
        (WritesBackStoredPolicy agentId)) := by
  intro registry patches final actions parsed run _ patch isLast
  have started : PolicyKept agentId (.started registry patches) := by
    refine ⟨parsed, ?_, nofun⟩
    intro pending member
    obtain ⟨patch, _, rfl⟩ := List.mem_map.mp member
    trivial
  have holds : PolicyKept agentId final := by
    refine run.preserves ?_ started
    rintro before action after ⟨taken, writesBack⟩ holds
    exact holds.step writesBack taken
  exact holds.kept patch isLast

/-! ### Two requests that overlap -/

/-- A request that sets whether the desktop may be viewed. -/
def viewPatch (enabled : Bool) : RegistryPatch where
  access :=
    { permissions := some [("view", { enabled := some enabled })]
      distinct := by
        intro rules given
        cases given
        exact List.nodup_singleton _ }

def registeredAgent : AgentRegistry :=
  AgentRegistry.empty.upsertAgent "a" { hostname := "desk" } 0

def advances (position count : Nat) : List PatchAction :=
  List.replicate count (.advance position 1)

/-- A request that writes nothing back in this step. -/
def WritesNothingBack (sys : PatchSystem) : PatchAction → Prop
  | .advance position _ =>
    sys.patches[position]?.all
      (fun pending =>
        match pending.stage with
        | .writingBack .. => false
        | _ => true) =
      true
  | _ => True

instance (sys : PatchSystem) (action : PatchAction) :
    Decidable (WritesNothingBack sys action) := by
  unfold WritesNothingBack
  split <;> infer_instance

instance (stage : PatchStage) : Decidable (stage = .finished) :=
  match stage with
  | .finished => isTrue rfl
  | .looking => isFalse nofun
  | .reading _ => isFalse nofun
  | .writing _ _ => isFalse nofun
  | .committing => isFalse nofun
  | .reloading => isFalse nofun
  | .provisioning _ _ => isFalse nofun
  | .readingBack _ _ => isFalse nofun
  | .writingBack _ _ _ => isFalse nofun
  | .committingBack => isFalse nofun
  | .reloadingBack => isFalse nofun

instance (sys : PatchSystem) : Decidable sys.Finished :=
  inferInstanceAs
    (Decidable (∀ pending ∈ sys.patches, pending.stage = .finished))

/-- Whether the stored policy says that the desktop may be viewed. -/
def viewEnabled (sys : PatchSystem) : Option Bool :=
  match
      valueAt? (rowMetadata (sys.registry.getAgent "a"))
        (accessPath ["permissions", "view", "enabled"]) with
  | some (.bool enabled) => some enabled
  | _ => none

/-- Whether the policy that was written last says so. -/
def lastViewEnabled (sys : PatchSystem) : Option Bool :=
  sys.lastPolicy.bind fun patch =>
    patch.access.permissions.bind fun rules =>
      (rules.find? (·.1 = "view")).bind (·.2.enabled)

variable {sys : PatchSystem}

theorem viewEnabled_of_storesRules
    (stores :
      ∀ patch ∈ sys.lastPolicy, StoresRules (sys.registry.getAgent "a") patch)
    {enabled : Bool}
    (isLast : lastViewEnabled sys = some enabled) :
    viewEnabled sys = some enabled := by
  obtain ⟨patch, written, given⟩ := Option.bind_eq_some_iff.mp isLast
  obtain ⟨rules, isGiven, found⟩ := Option.bind_eq_some_iff.mp given
  obtain ⟨rule, isRule, isEnabled⟩ := Option.bind_eq_some_iff.mp found
  have named : rule.1 = "view" := by
    simpa using List.find?_some isRule
  have isField : ("enabled", Json.bool enabled) ∈ rule.2.modelDump := by
    simp [PermissionRuleRequest.modelDump, isEnabled, givenField]
  have stored :=
    stores patch written rules isGiven rule (List.mem_of_find?_eq_some isRule)
      _ isField
  rw [named] at stored
  unfold viewEnabled
  rw [stored]

theorem IsLeaf.provides
    {fields : JsonObject}
    {path : List String}
    {value : Json}
    (isLeaf : IsLeaf fields path value) :
    Provides (valueAt? fields path) value := by
  rw [isLeaf.1]
  cases value with
  | obj fields => exact ⟨fields, rfl⟩
  | _ => rfl

theorem writesBackStoredPolicy_of_unchanged
    {agentId : String}
    {position : Nat}
    {patch : RegistryPatch}
    {time : Int}
    (isPending : sys.patches[position]? = some
          { patch
            stage :=
              .writingBack time
                (objectAt (rowMetadata (sys.registry.getAgent agentId))
                  "guacamole")
                (sys.registry.getAgent agentId) })
    (now : Int) :
    WritesBackStoredPolicy agentId sys (.advance position now) := by
  intro pending found time refreshed existing isWriting
  rw [Option.mem_def, isPending] at found
  cases found
  cases isWriting
  exact ⟨rfl, fun path value isLeaf => isLeaf.provides⟩

theorem WritesNothingBack.writesBackStoredPolicy
    {action : PatchAction}
    (nothing : WritesNothingBack sys action)
    (agentId : String) :
    WritesBackStoredPolicy agentId sys action := by
  cases action with
  | advance position now =>
    intro pending isPending time refreshed existing isWriting
    unfold WritesNothingBack at nothing
    dsimp only at nothing
    rw [Option.mem_def.mp isPending, Option.all_some, isWriting] at nothing
    cases nothing
  | _ =>
    trivial

/--
Both policies are written, the second one last; Guacamole cannot be provisioned
for the first request, and the second one is about to write its mapping back.
-/
def patchedTwice : List PatchAction :=
  advances 0 5 ++ advances 1 5 ++ [.fail 0, .provision 1 .skipped 2] ++
    advances 1 1

/-- The requests then. -/
def writingBack : PatchSystem :=
  (execute (checked (patchStep? asciiTextLibrary "a") WritesNothingBack)
      (.started registeredAgent [viewPatch true, viewPatch false])
      patchedTwice).getD
    (.started registeredAgent [])

theorem lastView_stored :
    ∃ final,
      Run
        (Guarded (Fires (patchStep? asciiTextLibrary "a"))
          (WritesBackStoredPolicy "a"))
        (.started registeredAgent [viewPatch true, viewPatch false])
        (patchedTwice ++ .advance 1 3 :: advances 1 2) final ∧
        final.Finished ∧
        viewEnabled final = some false := by
  have executed :
      execute
          (checked (patchStep? asciiTextLibrary "a") WritesNothingBack)
          (.started registeredAgent [viewPatch true, viewPatch false])
          patchedTwice =
        some writingBack :=
    rfl
  have leading :=
    (run_of_execute executed).guarded_of_checked.relax fun _ _ nothing =>
      nothing.writesBackStoredPolicy "a"
  have unchanged :
      writingBack.patches[1]? = some
          { patch := viewPatch false
            stage :=
              .writingBack 2
                (objectAt
                  (rowMetadata (writingBack.registry.getAgent "a"))
                  "guacamole")
                (writingBack.registry.getAgent "a") } :=
    rfl
  obtain ⟨after, taken, reached⟩ :
      ∃ after,
        patchStep? asciiTextLibrary "a" writingBack (.advance 1 3) =
            some after ∧
          (execute
              (checked (patchStep? asciiTextLibrary "a") WritesNothingBack)
              after (advances 1 2)).any
            (fun sys : PatchSystem =>
              decide sys.Finished && lastViewEnabled sys = some false) =
          true :=
    ⟨_, rfl, by decide⟩
  obtain ⟨final, checkedRun, tested⟩ := exists_run_of_execute reached
  rw [Bool.and_eq_true, decide_eq_true_eq, decide_eq_true_eq] at tested
  have trailing :=
    checkedRun.guarded_of_checked.relax fun _ _ nothing =>
      nothing.writesBackStoredPolicy "a"
  have run :=
    leading.append
      (.cons ⟨taken, writesBackStoredPolicy_of_unchanged unchanged 3⟩ trailing)
  have parsed : ParsedFields (rowMetadata (registeredAgent.getAgent "a")) :=
    .nil
  have kept :=
    lastPolicyWins_of_writesBackStoredPolicy asciiTextLibrary "a" parsed run
      tested.1
  exact ⟨final, run, tested.1, viewEnabled_of_storesRules kept tested.2⟩

/--
Without the condition a slower request restores its policy: the second one has
been answered when the first one writes its mapping back.
-/
theorem not_lastPolicyWins :
    ¬ LastPolicyWins "a" (Fires (patchStep? asciiTextLibrary "a")) := by
  intro claimed
  obtain ⟨final, run, reached⟩ :=
    exists_run_of_execute
      (show (execute (patchStep? asciiTextLibrary "a")
          (.started registeredAgent [viewPatch true, viewPatch false])
          (advances 0 5 ++ advances 1 5 ++ [.provision 1 .skipped 2] ++
            advances 1 4 ++ [.provision 0 .skipped 3] ++ advances 0 4)).any
          (fun sys : PatchSystem =>
            decide sys.Finished &&
              lastViewEnabled sys = some false &&
              viewEnabled sys = some true) = true by
        decide)
  simp only [Bool.and_eq_true, decide_eq_true_eq] at reached
  obtain ⟨⟨finished, isLast⟩, stored⟩ := reached
  have parsed : ParsedFields (rowMetadata (registeredAgent.getAgent "a")) :=
    .nil
  have kept :=
    viewEnabled_of_storesRules (claimed parsed run finished) isLast
  rw [stored] at kept
  cases kept

end RpaPlatform.Agents
