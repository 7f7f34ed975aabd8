import RpaPlatform.AgentRuntime
import RpaPlatform.JsonPath

namespace RpaPlatform.Agents

open Tasks (Json)

/-!
# The access policy of remote sessions

Who may view or control an agent's desktop is kept in the agent's metadata.
The policy is normalized whenever it is read: each permission has a rule with
the lowest role it is granted to, and single users and groups that it is
granted to in addition.  Policies of an older form are read as well.
-/

/-! ### Roles -/

/-- `ROLE_ORDER`. -/
inductive Role where
  | viewer
  | operator
  | admin
deriving DecidableEq

namespace Role

def text : Role → String
  | viewer => "viewer"
  | operator => "operator"
  | admin => "admin"

def rank : Role → Nat
  | viewer => 0
  | operator => 1
  | admin => 2

/-- The role that a text names. -/
def ofText? (text : String) : Option Role :=
  if text = "viewer" then some viewer
  else if text = "operator" then some operator
  else if text = "admin" then some admin
  else none

def higher (first second : Role) : Role :=
  if first.rank < second.rank then second else first

theorem ofText?_text (role : Role) : ofText? role.text = some role := by
  cases role <;> decide

end Role

section Reading

variable (library : TextLibrary)

/-- `normalize_roles`, with the viewer's role where there is none. -/
def normalizeRoles (roles : List String) : List Role :=
  roles.filterMap fun role => Role.ofText? (library.lower (strip role))

def getHighestRole (roles : List String) : Role :=
  (normalizeRoles library roles).foldl Role.higher .viewer

def hasMinimumRole (roles : List String) (minimumRole : Role) : Bool :=
  decide (minimumRole.rank ≤ (getHighestRole library roles).rank)

/-! ### Permissions -/

/-- The permissions of `PERMISSION_DEFAULTS`. -/
inductive Permission where
  | view
  | interact
  | clipboard
  | upload
  | download
  | recording
  | sessionKick
deriving DecidableEq

namespace Permission

def text : Permission → String
  | view => "view"
  | interact => "interact"
  | clipboard => "clipboard"
  | upload => "upload"
  | download => "download"
  | recording => "recording"
  | sessionKick => "session_kick"

/-- `PERMISSION_DEFAULTS`; every permission is enabled. -/
def defaultMinimumRole : Permission → Role
  | view => .operator
  | interact => .admin
  | clipboard => .operator
  | upload => .admin
  | download => .admin
  | recording => .operator
  | sessionKick => .admin

def all : List Permission :=
  [view, interact, clipboard, upload, download, recording, sessionKick]

end Permission

/-- `str(value or "")`. -/
def textOr (value : Json) : String :=
  if truthy value then
    match value with
    | .str text => text
    | other => library.str other
  else
    ""

/-- `dict.get`. -/
def getField (fields : JsonObject) (key : String) : Json :=
  fieldOr fields key .null

/-- Drop the texts that differ in case from an earlier one. -/
def dropRepeated (seen : List String) : List String → List String
  | [] =>
    []
  | cleaned :: rest =>
    let lowered := library.casefold cleaned
    if cleaned = "" || lowered ∈ seen then
      dropRepeated seen rest
    else
      cleaned :: dropRepeated (lowered :: seen) rest

def normalizePrincipals : Json → List String
  | .arr values =>
    dropRepeated library []
      (values.map fun value => strip (textOr library value))
  | _ =>
    []

def normalizeRole (value : Json) (default : Role) : Role :=
  (Role.ofText? (library.lower (strip (textOr library value)))).getD
    default

/-- The rule of a permission. -/
structure PermissionRule where
  enabled : Bool
  minimumRole : Role
  users : List String
  groups : List String

/-- A normalized policy. -/
abbrev AccessPolicy :=
  Permission → PermissionRule

/-- A boolean field, or a default. -/
def boolOr (value : Json) (default : Bool) : Bool :=
  match value with
  | .bool flag => flag
  | _ => default

/-- `_normalize_permission_rule`, for the fields of a rule. -/
def normalizePermissionRule
    (rule : JsonObject)
    (defaultMinimumRole : Role) : PermissionRule where
  enabled := boolOr (getField rule "enabled") true
  minimumRole :=
    match getField rule "minimum_role" with
    | .null => defaultMinimumRole
    | value => normalizeRole library value defaultMinimumRole
  users := normalizePrincipals library (getField rule "users")
  groups := normalizePrincipals library (getField rule "groups")

def mappingFields : Json → JsonObject
  | .obj fields => fields
  | _ => []

/-- The rule of a permission in a policy of the older form. -/
def legacyRule (policy : JsonObject) : Permission → JsonObject :=
  let viewRole :=
    normalizeRole library (getField policy "minimum_role") .operator
  let interactRole :=
    normalizeRole library (getField policy "interactive_minimum_role") .admin
  let transfer := objectAt policy "file_transfer"
  let transferRule := fun (key : String) =>
    [("minimum_role", .str interactRole.text),
      ("enabled", .bool (boolOr (getField transfer key) true))]
  fun
    | .view | .clipboard | .recording =>
      [("minimum_role", .str viewRole.text)]
    | .interact => [("minimum_role", .str interactRole.text)]
    | .upload => transferRule "upload_enabled"
    | .download => transferRule "download_enabled"
    | .sessionKick => []

/-- `normalize_guacamole_access_policy`, for the fields of a policy. -/
def normalizeAccessPolicy (policy : JsonObject) : AccessPolicy :=
  fun permission =>
    let rule :=
      match getField (objectAt policy "permissions") permission.text with
      | .null => legacyRule library policy permission
      | rawRule => mappingFields rawRule
    normalizePermissionRule library rule permission.defaultMinimumRole

/-- The policy in the metadata, with the transfers allowed beside it. -/
def rawAccessPolicy (metadata : JsonObject) : JsonObject :=
  let guacamole := objectAt metadata "guacamole"
  let rawPolicy := objectAt guacamole "access"
  let legacyFileTransfer := objectAt guacamole "file_transfer"
  if legacyFileTransfer.isEmpty then
    rawPolicy
  else
    Dictionary.set "file_transfer"
      (.obj
        (Dictionary.unpack (objectAt rawPolicy "file_transfer")
          legacyFileTransfer))
      rawPolicy

/-- `extract_guacamole_access_policy`, of a record's metadata. -/
def extractAccessPolicy (metadata : JsonObject) : AccessPolicy :=
  normalizeAccessPolicy library (rawAccessPolicy metadata)

/-! ### Granting -/

namespace PermissionRule

/-- A rule as it is stored. -/
def toJson (rule : PermissionRule) : Json :=
  .obj
    [("enabled", .bool rule.enabled),
      ("minimum_role", .str rule.minimumRole.text),
      ("users", .arr (rule.users.map .str)),
      ("groups", .arr (rule.groups.map .str))]

end PermissionRule

/-- A normalized policy as it is passed on. -/
def AccessPolicy.toFields (policy : AccessPolicy) : JsonObject :=
  [("permissions",
    .obj
      (Permission.all.map fun permission =>
        (permission.text, (policy permission).toJson)))]

/-- A user, as far as permissions depend on it. -/
structure PolicyUser where
  roles : List String := ["viewer"]
  subject : String := ""
  groupIds : List String := []

def hasGuacamolePermission
    (policy : JsonObject)
    (user : PolicyUser)
    (permission : String) : Bool :=
  match Permission.all.find? fun known => known.text = permission with
  | none =>
    false
  | some known =>
    let rule := normalizeAccessPolicy library policy known
    let subject := library.casefold (strip user.subject)
    let groups := rule.groups.map library.casefold
    let groupIds :=
      (user.groupIds.map strip).filter fun groupId => groupId ≠ ""
    rule.enabled &&
      (hasMinimumRole library user.roles rule.minimumRole ||
        (subject ≠ "" && decide (subject ∈ rule.users.map library.casefold)) ||
        groupIds.any fun groupId =>
          decide (library.casefold groupId ∈ groups))

end Reading

/-! ### What a policy depends on -/

def accessPath (path : List String) : List String :=
  "guacamole" :: "access" :: path

/-- The paths to the values that a policy is read from. -/
def policyPaths : List (List String) :=
  [accessPath ["minimum_role"],
    accessPath ["interactive_minimum_role"],
    ["guacamole", "file_transfer", "upload_enabled"],
    ["guacamole", "file_transfer", "download_enabled"],
    accessPath ["file_transfer", "upload_enabled"],
    accessPath ["file_transfer", "download_enabled"],
    accessPath ["permissions", "view"],
    accessPath ["permissions", "interact"],
    accessPath ["permissions", "clipboard"],
    accessPath ["permissions", "upload"],
    accessPath ["permissions", "download"],
    accessPath ["permissions", "recording"],
    accessPath ["permissions", "session_kick", "enabled"],
    accessPath ["permissions", "session_kick", "minimum_role"],
    accessPath ["permissions", "session_kick", "users"],
    accessPath ["permissions", "session_kick", "groups"]]

section Dependence

variable (library : TextLibrary)

theorem lookup_rawAccessPolicy
    {key : String}
    (other : key ≠ "file_transfer")
    (metadata : JsonObject) :
    (rawAccessPolicy metadata).lookup key =
      valueAt? metadata (accessPath [key]) := by
  unfold rawAccessPolicy
  dsimp only
  split
  · rfl
  · exact Dictionary.lookup_set_other other _ _

theorem objectAt_rawAccessPolicy
    {key : String}
    (other : key ≠ "file_transfer")
    (metadata : JsonObject) :
    objectAt (rawAccessPolicy metadata) key =
      objectAt (objectAt (objectAt metadata "guacamole") "access") key := by
  have same := lookup_rawAccessPolicy other metadata
  unfold objectAt at same ⊢
  rw [same]
  rfl

theorem lookup_rawTransfer (metadata : JsonObject) (key : String) :
    (objectAt (rawAccessPolicy metadata) "file_transfer").lookup key =
      (valueAt? metadata ["guacamole", "file_transfer", key]).or
        (valueAt? metadata (accessPath ["file_transfer", key])) := by
  unfold rawAccessPolicy
  dsimp only
  split
  · rename_i nothing
    have absent :
        valueAt? metadata ["guacamole", "file_transfer", key] = none := by
      unfold valueAt?
      rw [valueAt?, List.isEmpty_iff.mp nothing]
      rfl
    rw [absent]
    rfl
  · rw [objectAt, Dictionary.lookup_set_self]
    exact Dictionary.lookup_unpack _ _ _

variable {first second : JsonObject}

theorem normalizePermissionRule_congr
    (same :
      ∀ key ∈ ["enabled", "minimum_role", "users", "groups"],
        first.lookup key = second.lookup key)
    (defaultMinimumRole : Role) :
    normalizePermissionRule library first defaultMinimumRole =
      normalizePermissionRule library second defaultMinimumRole := by
  unfold normalizePermissionRule getField fieldOr
  rw [same "enabled" (by simp), same "minimum_role" (by simp),
    same "users" (by simp), same "groups" (by simp)]

theorem legacyRule_congr
    (minimumRole : first.lookup "minimum_role" = second.lookup "minimum_role")
    (interactiveMinimumRole :
      first.lookup "interactive_minimum_role" =
        second.lookup "interactive_minimum_role")
    (transfer :
      ∀ key ∈ ["upload_enabled", "download_enabled"],
        (objectAt first "file_transfer").lookup key =
          (objectAt second "file_transfer").lookup key) :
    legacyRule library first = legacyRule library second := by
  unfold legacyRule getField fieldOr
  dsimp only
  rw [minimumRole, interactiveMinimumRole,
    transfer "upload_enabled" (by simp),
    transfer "download_enabled" (by simp)]

theorem mappingFields_getField (fields : JsonObject) (key : String) :
    (match getField fields key with
      | .null => []
      | rawRule => mappingFields rawRule) =
      objectAt fields key := by
  unfold getField fieldOr objectAt
  cases fields.lookup key with
  | none =>
    rfl
  | some value =>
    cases value with
    | _ =>
      rfl

theorem extractAccessPolicy_sessionKick (metadata : JsonObject) :
    extractAccessPolicy library metadata .sessionKick =
      normalizePermissionRule library
        (objectAt
          (objectAt
            (objectAt (objectAt metadata "guacamole") "access")
            "permissions")
          "session_kick")
        .admin := by
  have rule :=
    mappingFields_getField
      (objectAt (rawAccessPolicy metadata) "permissions") "session_kick"
  rw [← objectAt_rawAccessPolicy (by decide)]
  exact congrArg (normalizePermissionRule library · .admin) rule

/-- A policy depends on the values at its paths. -/
theorem extractAccessPolicy_congr
    (same : ∀ path ∈ policyPaths, valueAt? first path = valueAt? second path) :
    extractAccessPolicy library first = extractAccessPolicy library second := by
  have legacy :
      legacyRule library (rawAccessPolicy first) =
        legacyRule library (rawAccessPolicy second) := by
    apply legacyRule_congr
    · rw [lookup_rawAccessPolicy (by decide),
        lookup_rawAccessPolicy (by decide),
        same _ (by simp [policyPaths])]
    · rw [lookup_rawAccessPolicy (by decide),
        lookup_rawAccessPolicy (by decide),
        same _ (by simp [policyPaths])]
    · intro key member
      rw [lookup_rawTransfer, lookup_rawTransfer]
      simp only [List.mem_cons, List.not_mem_nil, or_false] at member
      rcases member with rfl | rfl
      · rw [same ["guacamole", "file_transfer", "upload_enabled"]
            (by simp [policyPaths]),
          same (accessPath ["file_transfer", "upload_enabled"])
            (by simp [policyPaths])]
      · rw [same ["guacamole", "file_transfer", "download_enabled"]
            (by simp [policyPaths]),
          same (accessPath ["file_transfer", "download_enabled"])
            (by simp [policyPaths])]
  have permissions :
      ∀ permission : Permission,
        permission ≠ .sessionKick →
        getField (objectAt (rawAccessPolicy first) "permissions")
            permission.text =
          getField (objectAt (rawAccessPolicy second) "permissions")
            permission.text := by
    intro permission ordinary
    have equal :=
      same (accessPath ["permissions", permission.text])
        (by cases permission <;> simp [policyPaths, Permission.text]
              at ordinary ⊢)
    unfold getField fieldOr
    rw [objectAt_rawAccessPolicy (by decide),
      objectAt_rawAccessPolicy (by decide)]
    exact congrArg (Option.getD · Json.null) equal
  funext permission
  by_cases kick : permission = .sessionKick
  · subst permission
    rw [extractAccessPolicy_sessionKick, extractAccessPolicy_sessionKick]
    apply normalizePermissionRule_congr
    intro key member
    apply same (accessPath ["permissions", "session_kick", key])
    simp only [List.mem_cons, List.not_mem_nil, or_false] at member
    rcases member with rfl | rfl | rfl | rfl
    all_goals simp [policyPaths]
  · unfold extractAccessPolicy normalizeAccessPolicy
    dsimp only
    rw [permissions permission kick, legacy]

end Dependence

/-! ### Every path matters -/

/-- A text in lower case stays as it is. -/
structure TextLibrary.Lawful (library : TextLibrary) : Prop where
  lower_lowercase :
    ∀ text : String,
      (text.toList.all fun character => character.isLower) = true →
      library.lower text = text

/-- A policy of the older form with other roles than the usual ones. -/
def probedMetadata : JsonObject :=
  [("guacamole",
    .obj
      [("access",
        .obj
          [("minimum_role", .str "admin"),
            ("interactive_minimum_role", .str "viewer")])])]

/-- For each path a value that makes a difference to that policy. -/
def policyProbes : List (List String × Json) :=
  [(accessPath ["minimum_role"], .str "viewer"),
    (accessPath ["interactive_minimum_role"], .str "operator"),
    (["guacamole", "file_transfer", "upload_enabled"], .bool false),
    (["guacamole", "file_transfer", "download_enabled"], .bool false),
    (accessPath ["file_transfer", "upload_enabled"], .bool false),
    (accessPath ["file_transfer", "download_enabled"], .bool false),
    (accessPath ["permissions", "view"], .bool true),
    (accessPath ["permissions", "interact"], .bool true),
    (accessPath ["permissions", "clipboard"], .bool true),
    (accessPath ["permissions", "upload"], .bool true),
    (accessPath ["permissions", "download"], .bool true),
    (accessPath ["permissions", "recording"], .bool true),
    (accessPath ["permissions", "session_kick", "enabled"], .bool false),
    (accessPath ["permissions", "session_kick", "minimum_role"], .str "viewer"),
    (accessPath ["permissions", "session_kick", "users"], .arr [.str "x"]),
    (accessPath ["permissions", "session_kick", "groups"], .arr [.str "x"])]

theorem policyProbes_paths : policyProbes.map Prod.fst = policyPaths :=
  rfl

section Probes

variable {library : TextLibrary}

theorem textOr_str (text : String) : textOr library (.str text) = text := by
  by_cases empty : text = ""
  · simp [textOr, truthy, empty]
  · simp [textOr, truthy, empty]

theorem Role.strip_text (role : Role) : strip role.text = role.text := by
  cases role with
  | _ =>
    decide

theorem normalizeRole_text
    (lawful : library.Lawful)
    (role default : Role) :
    normalizeRole library (.str role.text) default = role := by
  have kept : library.lower role.text = role.text := by
    apply lawful.lower_lowercase
    cases role with
    | _ =>
      decide
  rw [normalizeRole, textOr_str, Role.strip_text, kept, Role.ofText?_text]
  rfl

theorem legacyRole_text
    (lawful : library.Lawful)
    (role first second : Role) :
    normalizeRole library
        (.str (normalizeRole library (.str role.text) first).text) second =
      role := by
  rw [normalizeRole_text lawful, normalizeRole_text lawful]

theorem normalizePrincipals_single :
    normalizePrincipals library (.arr [.str "x"]) = ["x"] := by
  have cleaned : strip "x" = "x" := by
    decide
  simp [normalizePrincipals, dropRepeated, textOr_str, cleaned]

theorem probed_users :
    normalizePermissionRule library [("users", .arr [.str "x"])] .admin ≠
      normalizePermissionRule library [] .admin := by
  intro same
  have read :
      getField [("users", Json.arr [.str "x"])] "users" = .arr [.str "x"] :=
    rfl
  have users := congrArg PermissionRule.users same
  simp only [normalizePermissionRule, read, normalizePrincipals_single] at users
  cases users

theorem probed_groups :
    normalizePermissionRule library [("groups", .arr [.str "x"])] .admin ≠
      normalizePermissionRule library [] .admin := by
  intro same
  have read :
      getField [("groups", Json.arr [.str "x"])] "groups" = .arr [.str "x"] :=
    rfl
  have groups := congrArg PermissionRule.groups same
  simp only [normalizePermissionRule, read, normalizePrincipals_single]
    at groups
  cases groups

theorem probed_minimumRole
    (lawful : library.Lawful)
    (permission : Permission) :
    (extractAccessPolicy library probedMetadata permission).minimumRole =
      match permission with
      | .view | .clipboard | .recording | .sessionKick => .admin
      | .interact | .upload | .download => .viewer := by
  cases permission with
  | view => exact legacyRole_text lawful .admin .operator .operator
  | interact => exact legacyRole_text lawful .viewer .admin .admin
  | clipboard => exact legacyRole_text lawful .admin .operator .operator
  | upload => exact legacyRole_text lawful .viewer .admin .admin
  | download => exact legacyRole_text lawful .viewer .admin .admin
  | recording => exact legacyRole_text lawful .admin .operator .operator
  | sessionKick => rfl

/-- Every probe makes a difference to the policy. -/
theorem probe_changes
    (lawful : library.Lawful)
    {path : List String}
    {value : Json}
    (member : (path, value) ∈ policyProbes) :
    extractAccessPolicy library (setAt value path probedMetadata) ≠
      extractAccessPolicy library probedMetadata := by
  intro same
  have roles :
      ∀ permission,
        (extractAccessPolicy library
            (setAt value path probedMetadata) permission).minimumRole =
          _ :=
    fun permission =>
      (congrArg (PermissionRule.minimumRole <| · permission) same).trans
        (probed_minimumRole lawful permission)
  have enabled :
      ∀ permission,
        (extractAccessPolicy library
            (setAt value path probedMetadata) permission).enabled =
          (extractAccessPolicy library probedMetadata permission).enabled :=
    fun permission => congrArg (PermissionRule.enabled <| · permission) same
  simp only [policyProbes, List.mem_cons, Prod.mk.injEq, List.not_mem_nil,
    or_false] at member
  rcases member with
    ⟨rfl, rfl⟩ | ⟨rfl, rfl⟩ | ⟨rfl, rfl⟩ | ⟨rfl, rfl⟩ | ⟨rfl, rfl⟩ |
    ⟨rfl, rfl⟩ | ⟨rfl, rfl⟩ | ⟨rfl, rfl⟩ | ⟨rfl, rfl⟩ | ⟨rfl, rfl⟩ |
    ⟨rfl, rfl⟩ | ⟨rfl, rfl⟩ | ⟨rfl, rfl⟩ | ⟨rfl, rfl⟩ | ⟨rfl, rfl⟩ |
    ⟨rfl, rfl⟩
  · have viewer := legacyRole_text lawful .viewer .operator .operator
    exact absurd (viewer.symm.trans (roles .view)) (by decide)
  · have operator := legacyRole_text lawful .operator .admin .admin
    exact absurd (operator.symm.trans (roles .interact)) (by decide)
  · exact absurd (enabled .upload) (show ¬ false = true by decide)
  · exact absurd (enabled .download) (show ¬ false = true by decide)
  · exact absurd (enabled .upload) (show ¬ false = true by decide)
  · exact absurd (enabled .download) (show ¬ false = true by decide)
  · exact absurd (roles .view) (show ¬ Role.operator = .admin by decide)
  · exact absurd (roles .interact) (show ¬ Role.admin = .viewer by decide)
  · exact absurd (roles .clipboard) (show ¬ Role.operator = .admin by decide)
  · exact absurd (roles .upload) (show ¬ Role.admin = .viewer by decide)
  · exact absurd (roles .download) (show ¬ Role.admin = .viewer by decide)
  · exact absurd (roles .recording) (show ¬ Role.operator = .admin by decide)
  · exact absurd (enabled .sessionKick) (show ¬ false = true by decide)
  · have viewer : normalizeRole library (.str "viewer") .admin = .viewer :=
      normalizeRole_text lawful .viewer .admin
    exact absurd (viewer.symm.trans (roles .sessionKick)) (by decide)
  · have rule := congrFun same .sessionKick
    rw [extractAccessPolicy_sessionKick,
      extractAccessPolicy_sessionKick] at rule
    exact probed_users rule
  · have rule := congrFun same .sessionKick
    rw [extractAccessPolicy_sessionKick,
      extractAccessPolicy_sessionKick] at rule
    exact probed_groups rule

end Probes

end RpaPlatform.Agents
