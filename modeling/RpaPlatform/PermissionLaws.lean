import RpaPlatform.AgentPolicy

namespace RpaPlatform.Agents

open Tasks (Json)

/-!
# Laws of the access policy

Normalizing a policy changes nothing the second time, and a policy grants what
its normal form grants.  What a user is granted stays granted when the user or
a rule of the policy gets more roles, groups or entries.
-/

/-! ### What is returned -/

section Returning

variable (library : TextLibrary)

/-- `normalize_guacamole_access_policy`, as the object that it returns. -/
def normalizeGuacamoleAccessPolicy (rawPolicy : Json) : JsonObject :=
  (normalizeAccessPolicy library (mappingFields rawPolicy)).toFields

def attachEffectivePermissions
    (rawPolicy : Json)
    (user : PolicyUser) : JsonObject :=
  let normalizedPolicy := normalizeGuacamoleAccessPolicy library rawPolicy
  Dictionary.set "effective_permissions"
    (.obj
      (Permission.all.map fun permission =>
        (permission.text,
          .bool
            (hasGuacamolePermission library normalizedPolicy user
              permission.text))))
    normalizedPolicy

end Returning

/-! ### Lists of principals -/

section Principals

variable {library : TextLibrary}

def entriesOf : Json → List Json
  | .arr entries => entries
  | _ => []

def cleanedEntry (library : TextLibrary) (entry : Json) : String :=
  strip (textOr library entry)

theorem normalizePrincipals_eq (value : Json) :
    normalizePrincipals library value =
      dropRepeated library []
        ((entriesOf value).map (cleanedEntry library)) := by
  cases value with
  | _ =>
    rfl

theorem dropRepeated_dropRepeated (seen entries : List String) :
    dropRepeated library seen (dropRepeated library seen entries) =
      dropRepeated library seen entries := by
  induction entries generalizing seen with
  | nil =>
    rfl
  | cons cleaned rest inductionHypothesis =>
    rw [dropRepeated]
    split
    · exact inductionHypothesis seen
    · rename_i kept
      rw [dropRepeated, if_neg kept, inductionHypothesis]

theorem mem_of_mem_dropRepeated
    {seen entries : List String}
    {entry : String}
    (member : entry ∈ dropRepeated library seen entries) :
    entry ∈ entries := by
  induction entries generalizing seen with
  | nil =>
    exact member
  | cons cleaned rest inductionHypothesis =>
    rw [dropRepeated] at member
    split at member
    · exact List.mem_cons_of_mem _ (inductionHypothesis member)
    · rcases List.mem_cons.mp member with rfl | later
      · exact List.mem_cons_self
      · exact List.mem_cons_of_mem _ (inductionHypothesis later)

theorem casefold_mem_dropRepeated
    {seen : List String}
    {lowered : String}
    (unseen : lowered ∉ seen)
    (entries : List String) :
    lowered ∈ (dropRepeated library seen entries).map library.casefold ↔
      ∃ entry ∈ entries, entry ≠ "" ∧ library.casefold entry = lowered := by
  induction entries generalizing seen with
  | nil =>
    simp [dropRepeated]
  | cons cleaned rest inductionHypothesis =>
    rw [dropRepeated, List.exists_mem_cons_iff]
    split
    · rename_i dropped
      rw [inductionHypothesis unseen]
      refine (or_iff_right ?_).symm
      rintro ⟨nonempty, rfl⟩
      simp [nonempty, unseen] at dropped
    · rename_i kept
      simp only [Bool.or_eq_true, decide_eq_true_eq, not_or] at kept
      rw [List.map_cons, List.mem_cons]
      by_cases same : library.casefold cleaned = lowered
      · exact iff_of_true (.inl same.symm) (.inl ⟨kept.1, same⟩)
      · have stillUnseen : lowered ∉ library.casefold cleaned :: seen := by
          rw [List.mem_cons, not_or]
          exact ⟨fun equal => same equal.symm, unseen⟩
        rw [inductionHypothesis stillUnseen]
        refine or_congr ?_ Iff.rfl
        exact
          iff_of_false (fun equal => same equal.symm) fun both => same both.2

theorem casefold_mem_normalizePrincipals
    (value : Json)
    (lowered : String) :
    lowered ∈
        (normalizePrincipals library value).map library.casefold ↔
      ∃ entry ∈ entriesOf value,
        cleanedEntry library entry ≠ "" ∧
          library.casefold (cleanedEntry library entry) = lowered := by
  rw [normalizePrincipals_eq, casefold_mem_dropRepeated (List.not_mem_nil)]
  simp only [List.mem_map, exists_exists_and_eq_and]

theorem normalizePrincipals_normalized (value : Json) :
    normalizePrincipals library
        (.arr ((normalizePrincipals library value).map .str)) =
      normalizePrincipals library value := by
  have cleaned :
      ((normalizePrincipals library value).map Json.str).map
          (cleanedEntry library) =
        normalizePrincipals library value := by
    rw [List.map_map]
    refine (List.map_congr_left fun entry member => ?_).trans (List.map_id _)
    rw [normalizePrincipals_eq] at member
    obtain ⟨raw, _, rfl⟩ :=
      List.mem_map.mp (mem_of_mem_dropRepeated member)
    simp [cleanedEntry, textOr_str]
  rw [normalizePrincipals_eq (.arr _), entriesOf, cleaned,
    normalizePrincipals_eq value, dropRepeated_dropRepeated]

end Principals

/-! ### The normal form -/

section Normalization

variable {library : TextLibrary}

theorem getField_toFields
    (policy : AccessPolicy)
    (permission : Permission) :
    getField (objectAt policy.toFields "permissions") permission.text =
      (policy permission).toJson := by
  cases permission with
  | _ =>
    rfl

theorem normalizePermissionRule_normalized
    (lawful : library.Lawful)
    (rule : JsonObject)
    (defaultMinimumRole default : Role) :
    normalizePermissionRule library
        (mappingFields
          (normalizePermissionRule library rule
            defaultMinimumRole).toJson)
        default =
      normalizePermissionRule library rule defaultMinimumRole := by
  have role :
      ∀ role : Role, normalizeRole library (.str role.text) default = role :=
    fun role => normalizeRole_text lawful role default
  have users :=
    @normalizePrincipals_normalized library (getField rule "users")
  have groups :=
    @normalizePrincipals_normalized library (getField rule "groups")
  generalize isNormalized :
    normalizePermissionRule library rule defaultMinimumRole = normalized
  have isUsers :
      normalizePrincipals library (getField rule "users") = normalized.users :=
    congrArg PermissionRule.users isNormalized
  have isGroups :
      normalizePrincipals library (getField rule "groups") =
        normalized.groups :=
    congrArg PermissionRule.groups isNormalized
  rw [isUsers] at users
  rw [isGroups] at groups
  calc
    normalizePermissionRule library (mappingFields normalized.toJson)
        default =
      { enabled := normalized.enabled
        minimumRole :=
          normalizeRole library (.str normalized.minimumRole.text) default
        users :=
          normalizePrincipals library (.arr (normalized.users.map .str))
        groups :=
          normalizePrincipals library
            (.arr (normalized.groups.map .str)) } := rfl
    _ = normalized := by
      rw [role, users, groups]

theorem normalizeAccessPolicy_normalized
    (lawful : library.Lawful)
    (policy : JsonObject) :
    normalizeAccessPolicy library
        (normalizeAccessPolicy library policy).toFields =
      normalizeAccessPolicy library policy := by
  funext permission
  rw [normalizeAccessPolicy, getField_toFields]
  exact normalizePermissionRule_normalized lawful _ _ _

theorem hasGuacamolePermission_congr
    {first second : JsonObject}
    (same :
      normalizeAccessPolicy library first =
        normalizeAccessPolicy library second)
    (user : PolicyUser)
    (permission : String) :
    hasGuacamolePermission library first user permission =
      hasGuacamolePermission library second user permission := by
  unfold hasGuacamolePermission
  rw [same]

theorem lookup_effectivePermissions
    (grants : String → Bool)
    (permission : Permission) :
    (Permission.all.map fun permission =>
        (permission.text, Json.bool (grants permission.text))).lookup
        permission.text =
      some (.bool (grants permission.text)) := by
  cases permission with
  | _ =>
    rfl

/--
Normalizing is idempotent, and it keeps what is granted to every user; the
effective permissions of a policy say what it grants.
-/
theorem normalizeGuacamoleAccessPolicy_faithful
    (lawful : library.Lawful)
    (rawPolicy : Json) :
    let normalizedPolicy := normalizeGuacamoleAccessPolicy library rawPolicy
    normalizeGuacamoleAccessPolicy library (.obj normalizedPolicy) =
        normalizedPolicy ∧
      (∀ user permission,
        hasGuacamolePermission library normalizedPolicy user permission =
          hasGuacamolePermission library (mappingFields rawPolicy) user
            permission) ∧
      ∀ user (permission : Permission),
        (objectAt (attachEffectivePermissions library rawPolicy user)
            "effective_permissions").lookup permission.text =
          some
            (.bool
              (hasGuacamolePermission library (mappingFields rawPolicy)
                user permission.text)) := by
  have normal :=
    normalizeAccessPolicy_normalized lawful (mappingFields rawPolicy)
  have grants := hasGuacamolePermission_congr normal
  refine ⟨congrArg AccessPolicy.toFields normal, grants, ?_⟩
  intro user permission
  unfold attachEffectivePermissions objectAt
  rw [Dictionary.lookup_set_self]
  dsimp only
  rw [lookup_effectivePermissions]
  exact congrArg (some ∘ Json.bool) (grants user permission.text)

/-- Entries that differ in blanks or case only, and a role in capitals. -/
def repeatedUsers : Json :=
  .obj
    [("permissions",
      .obj
        [("view",
          .obj
            [("minimum_role", .str " Admin "),
              ("users", .arr [.str " Alice", .str "ALICE", .null])])])]

theorem repeatedUsers_normalized :
    let normalizedPolicy :=
      normalizeGuacamoleAccessPolicy asciiTextLibrary repeatedUsers
    normalizeGuacamoleAccessPolicy asciiTextLibrary
        (.obj normalizedPolicy) =
      normalizedPolicy :=
  (normalizeGuacamoleAccessPolicy_faithful asciiTextLibrary_lawful
    repeatedUsers).1

end Normalization

/-! ### Roles -/

section Roles

variable (library : TextLibrary)

/-- A role that is not in `ROLE_ORDER`. -/
def OutsideOrder (role : String) : Prop :=
  Role.ofText? (library.lower (strip role)) = none

variable {library}

theorem rank_foldl_higher
    (roles : List Role)
    (start : Role)
    (bound : Nat) :
    bound ≤ (roles.foldl Role.higher start).rank ↔
      bound ≤ start.rank ∨ ∃ role ∈ roles, bound ≤ role.rank := by
  induction roles generalizing start with
  | nil =>
    simp
  | cons role rest inductionHypothesis =>
    have higher :
        bound ≤ (Role.higher start role).rank ↔
          bound ≤ start.rank ∨ bound ≤ role.rank := by
      unfold Role.higher
      split
      · omega
      · omega
    rw [List.foldl_cons, inductionHypothesis, higher,
      List.exists_mem_cons_iff, or_assoc]

theorem hasMinimumRole_iff
    {roles : List String}
    {minimumRole : Role} :
    hasMinimumRole library roles minimumRole = true ↔
      minimumRole.rank = 0 ∨
        ∃ role ∈ normalizeRoles library roles,
          minimumRole.rank ≤ role.rank := by
  rw [hasMinimumRole, decide_eq_true_eq, getHighestRole, rank_foldl_higher]
  exact or_congr_left Nat.le_zero

theorem hasMinimumRole_mono
    {fewer more : List String}
    (included : fewer ⊆ more)
    {minimumRole : Role}
    (reached : hasMinimumRole library fewer minimumRole = true) :
    hasMinimumRole library more minimumRole = true := by
  rw [hasMinimumRole_iff] at reached ⊢
  refine reached.imp_right ?_
  rintro ⟨role, member, atLeast⟩
  obtain ⟨text, isText, isRole⟩ := List.mem_filterMap.mp member
  exact ⟨role, List.mem_filterMap.mpr ⟨text, included isText, isRole⟩, atLeast⟩

theorem hasMinimumRole_outside
    (roles : List String)
    {outside : List String}
    (areOutside : ∀ role ∈ outside, OutsideOrder library role)
    (minimumRole : Role) :
    hasMinimumRole library (roles ++ outside) minimumRole =
      hasMinimumRole library roles minimumRole := by
  have nothing : normalizeRoles library outside = [] :=
    List.filterMap_eq_nil_iff.mpr areOutside
  have same :
      normalizeRoles library (roles ++ outside) =
        normalizeRoles library roles := by
    unfold normalizeRoles at nothing ⊢
    rw [List.filterMap_append, nothing, List.append_nil]
  unfold hasMinimumRole getHighestRole
  rw [same]

end Roles

/-! ### More users, groups and roles -/

section Monotonicity

/-- A rule with more entries. -/
structure RuleExtends (rule extended : JsonObject) : Prop where
  enabled : extended.lookup "enabled" = rule.lookup "enabled"
  minimumRole : extended.lookup "minimum_role" = rule.lookup "minimum_role"
  users :
    entriesOf (getField rule "users") ⊆ entriesOf (getField extended "users")
  groups :
    entriesOf (getField rule "groups") ⊆ entriesOf (getField extended "groups")

/-- The value under a permission, or a rule in its place with more entries. -/
inductive RuleValueExtends : Json → Json → Prop
  | same (value : Json) : RuleValueExtends value value
  | extended
      {rule extended : JsonObject}
      (extends' : RuleExtends rule extended) :
      RuleValueExtends (.obj rule) (.obj extended)

/-- A policy some of whose rules have more entries. -/
structure PolicyExtends (policy extended : JsonObject) : Prop where
  others : ∀ key, key ≠ "permissions" → extended.lookup key = policy.lookup key
  rules :
    ∀ name,
      RuleValueExtends
        (getField (objectAt policy "permissions") name)
        (getField (objectAt extended "permissions") name)

/-- A user with more roles and groups. -/
structure UserExtends (user extended : PolicyUser) : Prop where
  roles : user.roles ⊆ extended.roles
  subject : extended.subject = user.subject
  groupIds : user.groupIds ⊆ extended.groupIds

variable {library : TextLibrary}

theorem casefold_normalizePrincipals_mono
    {value extended : Json}
    (included : entriesOf value ⊆ entriesOf extended) :
    (normalizePrincipals library value).map library.casefold ⊆
      (normalizePrincipals library extended).map library.casefold := by
  intro lowered named
  rw [casefold_mem_normalizePrincipals] at named ⊢
  obtain ⟨entry, member, names⟩ := named
  exact ⟨entry, included member, names⟩

/-- A normalized rule that grants at least as much as another. -/
structure Grants
    (library : TextLibrary)
    (rule larger : PermissionRule) : Prop where
  enabled : larger.enabled = rule.enabled
  minimumRole : larger.minimumRole = rule.minimumRole
  users : rule.users.map library.casefold ⊆ larger.users.map library.casefold
  groups : rule.groups.map library.casefold ⊆ larger.groups.map library.casefold

theorem Grants.refl (rule : PermissionRule) : Grants library rule rule :=
  ⟨rfl, rfl, fun _ => id, fun _ => id⟩

theorem RuleExtends.grants
    {rule extended : JsonObject}
    (extends' : RuleExtends rule extended)
    (default : Role) :
    Grants library (normalizePermissionRule library rule default)
      (normalizePermissionRule library extended default) where
  enabled := by
    unfold normalizePermissionRule getField fieldOr
    rw [extends'.enabled]
  minimumRole := by
    unfold normalizePermissionRule getField fieldOr
    rw [extends'.minimumRole]
  users := casefold_normalizePrincipals_mono extends'.users
  groups := casefold_normalizePrincipals_mono extends'.groups

theorem PolicyExtends.legacyRule
    {policy extended : JsonObject}
    (extends' : PolicyExtends policy extended) :
    Agents.legacyRule library extended = Agents.legacyRule library policy := by
  apply legacyRule_congr
  · exact extends'.others _ (by decide)
  · exact extends'.others _ (by decide)
  · intro key _
    unfold objectAt
    rw [extends'.others _ (by decide)]

theorem PolicyExtends.grants
    {policy extended : JsonObject}
    (extends' : PolicyExtends policy extended)
    (permission : Permission) :
    Grants library (normalizeAccessPolicy library policy permission)
      (normalizeAccessPolicy library extended permission) := by
  have legacy :
      Agents.legacyRule library extended = Agents.legacyRule library policy :=
    extends'.legacyRule
  unfold normalizeAccessPolicy
  dsimp only
  rw [legacy]
  have rules := extends'.rules permission.text
  generalize getField (objectAt policy "permissions") permission.text =
    rule at rules ⊢
  generalize getField (objectAt extended "permissions") permission.text =
    larger at rules ⊢
  cases rules with
  | same =>
    exact Grants.refl _
  | extended extends' =>
    exact extends'.grants _

theorem hasGuacamolePermission_iff
    {policy : JsonObject}
    {user : PolicyUser}
    {permission : String} :
    hasGuacamolePermission library policy user permission = true ↔
      ∃ known ∈ Permission.all.find? fun known => known.text = permission,
        let rule := normalizeAccessPolicy library policy known
        rule.enabled = true ∧
          (hasMinimumRole library user.roles rule.minimumRole = true ∨
            (library.casefold (strip user.subject) ≠ "" ∧
              library.casefold (strip user.subject) ∈
                rule.users.map library.casefold) ∨
            ∃ groupId ∈ user.groupIds,
              strip groupId ≠ "" ∧
                library.casefold (strip groupId) ∈
                  rule.groups.map library.casefold) := by
  unfold hasGuacamolePermission
  split
  · rename_i unknown
    simp [unknown]
  · rename_i known isKnown
    simp [isKnown, or_assoc]

theorem hasGuacamolePermission_mono
    {policy largerPolicy : JsonObject}
    (policies : PolicyExtends policy largerPolicy)
    {user largerUser : PolicyUser}
    (users : UserExtends user largerUser)
    {permission : String}
    (granted : hasGuacamolePermission library policy user permission = true) :
    hasGuacamolePermission library largerPolicy largerUser permission =
      true := by
  rw [hasGuacamolePermission_iff] at granted ⊢
  obtain ⟨known, isKnown, enabled, allowed⟩ := granted
  have grants :
      Grants library (normalizeAccessPolicy library policy known)
        (normalizeAccessPolicy library largerPolicy known) :=
    policies.grants known
  refine ⟨known, isKnown, grants.enabled.trans enabled, ?_⟩
  rw [grants.minimumRole, users.subject]
  rcases allowed with reached | ⟨named, isUser⟩ | ⟨groupId, member, listed⟩
  · exact .inl (hasMinimumRole_mono users.roles reached)
  · exact .inr (.inl ⟨named, grants.users isUser⟩)
  · exact
      .inr
        (.inr
          ⟨groupId, users.groupIds member, listed.1, grants.groups listed.2⟩)

end Monotonicity

/-! ### What is never granted -/

section Denials

variable {library : TextLibrary}

theorem hasGuacamolePermission_disabled
    {policy : JsonObject}
    {permission : String}
    (disabled :
      ∀ known : Permission,
        known.text = permission →
        (normalizeAccessPolicy library policy known).enabled = false)
    (user : PolicyUser) :
    hasGuacamolePermission library policy user permission = false := by
  rw [Bool.eq_false_iff]
  intro granted
  obtain ⟨known, isKnown, enabled, _⟩ :=
    hasGuacamolePermission_iff.mp granted
  rw [Option.mem_def] at isKnown
  have named : known.text = permission := by
    simpa using List.find?_some isKnown
  rw [disabled known named] at enabled
  cases enabled

theorem enabled_normalizeAccessPolicy
    {policy rule : JsonObject}
    {known : Permission}
    (isRule : getField (objectAt policy "permissions") known.text = .obj rule)
    (disabled : rule.lookup "enabled" = some (.bool false)) :
    (normalizeAccessPolicy library policy known).enabled = false := by
  unfold normalizeAccessPolicy
  rw [isRule]
  dsimp only [mappingFields, normalizePermissionRule, getField, fieldOr]
  rw [disabled]
  rfl

theorem hasGuacamolePermission_outside
    {outside : List String}
    (areOutside : ∀ role ∈ outside, OutsideOrder library role)
    (policy : JsonObject)
    (user : PolicyUser)
    (permission : String) :
    hasGuacamolePermission library policy
        { user with roles := user.roles ++ outside } permission =
      hasGuacamolePermission library policy user permission := by
  unfold hasGuacamolePermission
  simp only [hasMinimumRole_outside user.roles areOutside]

/--
A granted permission stays granted when roles, groups or entries are added; a
rule that is not enabled denies it to every user, an unknown permission is
denied, and roles outside the order grant no more than the viewer's role.
-/
theorem hasGuacamolePermission_monotone (library : TextLibrary) :
    (∀ policy largerPolicy user largerUser permission,
      PolicyExtends policy largerPolicy →
      UserExtends user largerUser →
      hasGuacamolePermission library policy user permission = true →
      hasGuacamolePermission library largerPolicy largerUser permission =
        true) ∧
    (∀ policy permission rule,
      getField (objectAt policy "permissions") permission = .obj rule →
      rule.lookup "enabled" = some (.bool false) →
      ∀ user, hasGuacamolePermission library policy user permission = false) ∧
    (∀ permission,
      (∀ known : Permission, known.text ≠ permission) →
      ∀ policy user,
        hasGuacamolePermission library policy user permission = false) ∧
    ∀ policy (user : PolicyUser) permission outside,
      (∀ role ∈ outside, OutsideOrder library role) →
      hasGuacamolePermission library policy
          { user with roles := user.roles ++ outside } permission = true →
      hasGuacamolePermission library policy
          { user with roles := user.roles ++ ["viewer"] } permission =
        true := by
  refine ⟨?_, ?_, ?_, ?_⟩
  · intro policy largerPolicy user largerUser permission policies users
    exact hasGuacamolePermission_mono policies users
  · intro policy permission rule isRule disabled user
    apply hasGuacamolePermission_disabled
    rintro known rfl
    exact enabled_normalizeAccessPolicy isRule disabled
  · intro permission unknown policy user
    apply hasGuacamolePermission_disabled
    intro known named
    exact absurd named (unknown known)
  · intro policy user permission outside areOutside granted
    rw [hasGuacamolePermission_outside areOutside] at granted
    refine hasGuacamolePermission_mono ?_ ?_ granted
    · exact ⟨fun _ _ => rfl, fun _ => .same _⟩
    · exact
        { roles := List.subset_append_left _ _
          subject := rfl
          groupIds := fun _ => id }

/-- A user who is listed keeps the permission with another role. -/
theorem listedUser_promoted :
    hasGuacamolePermission asciiTextLibrary (mappingFields repeatedUsers)
      { roles := ["viewer", "auditor"], subject := "alice" } "view" = true := by
  refine
    (hasGuacamolePermission_monotone asciiTextLibrary).1
      (mappingFields repeatedUsers) (mappingFields repeatedUsers)
      { roles := ["viewer"], subject := "alice" }
      { roles := ["viewer", "auditor"], subject := "alice" } "view" ?_ ?_ ?_
  · exact ⟨fun _ _ => rfl, fun _ => .same _⟩
  · exact
      { roles := List.subset_append_left ["viewer"] ["auditor"]
        subject := rfl
        groupIds := fun _ => id }
  · decide

end Denials

end RpaPlatform.Agents
