import RpaPlatform.AgentRegistry

namespace RpaPlatform.Settings

open Agents (strip dropEnds_dropEnds)

/-!
# The settings of the server

The settings document, the patches of `PATCH /api/settings/server`, and what
becomes of a patch: without an identity section it is merged into the stored
settings, with one a whole document is computed from a snapshot of them.
-/

/-- White space, as the checks of the fields understand it. -/
def isWhiteSpace (character : Char) : Bool :=
  let code := character.toNat
  (9 ≤ code && code ≤ 13) || code = 32 || code = 0x85 || code = 0xa0 ||
    code = 0x1680 || (0x2000 ≤ code && code ≤ 0x200a) ||
    code = 0x2028 || code = 0x2029 || code = 0x202f || code = 0x205f ||
    code = 0x3000

/-- `str_strip_whitespace`. -/
def trim (text : String) : String :=
  String.ofList ((text.toList.dropWhile isWhiteSpace).rdropWhile isWhiteSpace)

@[simp]
theorem trim_trim (text : String) : trim (trim text) = trim text := by
  unfold trim
  rw [String.toList_ofList, dropEnds_dropEnds]

@[simp]
theorem trim_comp_trim : trim ∘ trim = trim :=
  funext trim_trim

/-! ### The document -/

def microsoftSsoRedirectPath : String :=
  "/api/users/callback/microsoft"

structure DeploymentDefaultsSettings where
  defaultRepoUrl : String := ""
  artifactShareRoot : String := ""
  latestInstallerShareTemplate : String := ""
deriving DecidableEq

structure IdentityGroupRoleMapping where
  groupObjectId : String := ""
  groupName : String := ""
  appRoles : List String := []
deriving DecidableEq

/-- Who may log in, where no mapping says so. -/
inductive AccessMode where
  | allowAll
  | denyUnlisted
  | allowLimited
deriving DecidableEq

structure IdentityAccessSettings where
  mode : AccessMode := .allowAll
  allowMappedGroups : Bool := true
  allowedUserSubjects : List String := []
  allowedGroupIds : List String := []
deriving DecidableEq

structure AzureSsoSettings where
  tenantId : String := ""
  clientId : String := ""
  clientSecret : String := ""
  authorityUrl : String := ""
  redirectPath : String := microsoftSsoRedirectPath
  scopes : List String := ["openid", "profile", "email"]
  groupRoleMappings : List IdentityGroupRoleMapping := []
  activatedAt : Option Int := none
deriving DecidableEq

/-- Who says who a user is. -/
inductive IdentityProvider where
  | localBootstrap
  | azureEntra
deriving DecidableEq

structure IdentitySettings where
  provider : IdentityProvider := .localBootstrap
  providerLocked : Bool := false
  sessionTtlSeconds : Int := 43200
  access : IdentityAccessSettings := {}
  azure : AzureSsoSettings := {}
deriving DecidableEq

structure GuacamoleRecordingSettings where
  enabled : Bool := false
  browseUrl : String := ""
  pathTemplate : String := ""
  nameTemplate : String := "\x7bconnection_name\x7d-\x7btimestamp\x7d.guac"
  createPath : Bool := true
  excludeOutput : Bool := false
  excludeMouse : Bool := false
  excludeTouch : Bool := false
  includeKeys : Bool := true
deriving DecidableEq

/-- How the size of a display is chosen. -/
inductive DisplayMode where
  | dynamic
  | fixed
deriving DecidableEq

structure GuacamoleDisplaySettings where
  mode : DisplayMode := .dynamic
  width : Option Int := none
  height : Option Int := none
  dpi : Int := 96
deriving DecidableEq

structure GuacamoleSettings where
  display : GuacamoleDisplaySettings := {}
  recording : GuacamoleRecordingSettings := {}
deriving DecidableEq

structure ServerSettings where
  deployment : DeploymentDefaultsSettings := {}
  identity : IdentitySettings := {}
  guacamole : GuacamoleSettings := {}
deriving DecidableEq

/-! ### Patches -/

structure DeploymentDefaultsPatch where
  defaultRepoUrl : Option String := none
  artifactShareRoot : Option String := none
  latestInstallerShareTemplate : Option String := none

structure IdentityGroupRoleMappingPatch where
  groupObjectId : Option String := none
  groupName : Option String := none
  appRoles : Option (List String) := none

structure IdentityAccessSettingsPatch where
  mode : Option AccessMode := none
  allowMappedGroups : Option Bool := none
  allowedUserSubjects : Option (List String) := none
  allowedGroupIds : Option (List String) := none

structure AzureSsoPatch where
  tenantId : Option String := none
  clientId : Option String := none
  clientSecret : Option String := none
  authorityUrl : Option String := none
  redirectPath : Option String := none
  scopes : Option (List String) := none
  groupRoleMappings : Option (List IdentityGroupRoleMappingPatch) := none
  activate : Option Bool := none

structure IdentitySettingsPatch where
  sessionTtlSeconds : Option Int := none
  access : Option IdentityAccessSettingsPatch := none
  azure : Option AzureSsoPatch := none

structure GuacamoleRecordingSettingsPatch where
  enabled : Option Bool := none
  browseUrl : Option String := none
  pathTemplate : Option String := none
  nameTemplate : Option String := none
  createPath : Option Bool := none
  excludeOutput : Option Bool := none
  excludeMouse : Option Bool := none
  excludeTouch : Option Bool := none
  includeKeys : Option Bool := none

structure GuacamoleDisplaySettingsPatch where
  mode : Option DisplayMode := none
  width : Option Int := none
  height : Option Int := none
  dpi : Option Int := none

structure GuacamoleSettingsPatch where
  display : Option GuacamoleDisplaySettingsPatch := none
  recording : Option GuacamoleRecordingSettingsPatch := none

structure ServerSettingsPatch where
  deployment : Option DeploymentDefaultsPatch := none
  identity : Option IdentitySettingsPatch := none
  guacamole : Option GuacamoleSettingsPatch := none

/-! ### Validation -/

/-- A mapping whose texts are trimmed. -/
def IdentityGroupRoleMapping.validated
    (mapping : IdentityGroupRoleMapping) : IdentityGroupRoleMapping where
  groupObjectId := trim mapping.groupObjectId
  groupName := trim mapping.groupName
  appRoles := mapping.appRoles.map trim

@[simp]
theorem validated_validated (mapping : IdentityGroupRoleMapping) :
    mapping.validated.validated = mapping.validated := by
  simp [IdentityGroupRoleMapping.validated]

theorem validated_comp_validated :
    IdentityGroupRoleMapping.validated ∘
        IdentityGroupRoleMapping.validated =
      IdentityGroupRoleMapping.validated :=
  funext validated_validated

/-- `ServerSettings.model_validate`: every text is trimmed. -/
def ServerSettings.validated (settings : ServerSettings) :
    ServerSettings where
  deployment :=
    { defaultRepoUrl := trim settings.deployment.defaultRepoUrl
      artifactShareRoot := trim settings.deployment.artifactShareRoot
      latestInstallerShareTemplate :=
        trim settings.deployment.latestInstallerShareTemplate }
  identity :=
    { settings.identity with
      access :=
        { settings.identity.access with
          allowedUserSubjects :=
            settings.identity.access.allowedUserSubjects.map trim
          allowedGroupIds :=
            settings.identity.access.allowedGroupIds.map trim }
      azure :=
        { tenantId := trim settings.identity.azure.tenantId
          clientId := trim settings.identity.azure.clientId
          clientSecret := trim settings.identity.azure.clientSecret
          authorityUrl := trim settings.identity.azure.authorityUrl
          redirectPath := trim settings.identity.azure.redirectPath
          scopes := settings.identity.azure.scopes.map trim
          groupRoleMappings :=
            settings.identity.azure.groupRoleMappings.map
              IdentityGroupRoleMapping.validated
          activatedAt := settings.identity.azure.activatedAt } }
  guacamole :=
    { settings.guacamole with
      recording :=
        { settings.guacamole.recording with
          browseUrl := trim settings.guacamole.recording.browseUrl
          pathTemplate := trim settings.guacamole.recording.pathTemplate
          nameTemplate :=
            trim settings.guacamole.recording.nameTemplate } }

/-- The bounds that `UpdateServerSettingsRequest` checks. -/
def ServerSettingsPatch.WithinBounds (body : ServerSettingsPatch) : Prop :=
  (∀ identity ∈ body.identity,
      ∀ seconds ∈ identity.sessionTtlSeconds,
        900 ≤ seconds ∧ seconds ≤ 604800) ∧
    ∀ guacamole ∈ body.guacamole, ∀ display ∈ guacamole.display,
      (∀ width ∈ display.width, 1 ≤ width ∧ width ≤ 16384) ∧
        (∀ height ∈ display.height, 1 ≤ height ∧ height ≤ 16384) ∧
          ∀ dpi ∈ display.dpi, 1 ≤ dpi ∧ dpi ≤ 1000

instance (body : ServerSettingsPatch) : Decidable body.WithinBounds :=
  inferInstanceAs (Decidable (_ ∧ _))

/-- A mapping of a request, with its texts trimmed. -/
def IdentityGroupRoleMappingPatch.trimmed
    (mapping : IdentityGroupRoleMappingPatch) :
    IdentityGroupRoleMappingPatch where
  groupObjectId := mapping.groupObjectId.map trim
  groupName := mapping.groupName.map trim
  appRoles := mapping.appRoles.map (·.map trim)

/-- An access section of a request, with its texts trimmed. -/
def IdentityAccessSettingsPatch.trimmed
    (access : IdentityAccessSettingsPatch) :
    IdentityAccessSettingsPatch :=
  { access with
    allowedUserSubjects := access.allowedUserSubjects.map (·.map trim)
    allowedGroupIds := access.allowedGroupIds.map (·.map trim) }

/-- An Azure section of a request, with its texts trimmed. -/
def AzureSsoPatch.trimmed (azure : AzureSsoPatch) : AzureSsoPatch where
  tenantId := azure.tenantId.map trim
  clientId := azure.clientId.map trim
  clientSecret := azure.clientSecret.map trim
  authorityUrl := azure.authorityUrl.map trim
  redirectPath := azure.redirectPath.map trim
  scopes := azure.scopes.map (·.map trim)
  groupRoleMappings :=
    azure.groupRoleMappings.map (·.map IdentityGroupRoleMappingPatch.trimmed)
  activate := azure.activate

/-- The body of a request, with its texts trimmed. -/
def ServerSettingsPatch.trimmed (body : ServerSettingsPatch) :
    ServerSettingsPatch where
  deployment :=
    body.deployment.map fun deployment =>
      { defaultRepoUrl := deployment.defaultRepoUrl.map trim
        artifactShareRoot := deployment.artifactShareRoot.map trim
        latestInstallerShareTemplate :=
          deployment.latestInstallerShareTemplate.map trim }
  identity :=
    body.identity.map fun identity =>
      { identity with
        access := identity.access.map IdentityAccessSettingsPatch.trimmed
        azure := identity.azure.map AzureSsoPatch.trimmed }
  guacamole :=
    body.guacamole.map fun guacamole =>
      { guacamole with
        recording :=
          guacamole.recording.map fun recording =>
            { recording with
              browseUrl := recording.browseUrl.map trim
              pathTemplate := recording.pathTemplate.map trim
              nameTemplate := recording.nameTemplate.map trim } }

/-! ### Merging -/

/-- The deployment section with a patch merged in. -/
def DeploymentDefaultsSettings.merge
    (settings : DeploymentDefaultsSettings)
    (patch : DeploymentDefaultsPatch) : DeploymentDefaultsSettings where
  defaultRepoUrl := patch.defaultRepoUrl.getD settings.defaultRepoUrl
  artifactShareRoot :=
    patch.artifactShareRoot.getD settings.artifactShareRoot
  latestInstallerShareTemplate :=
    patch.latestInstallerShareTemplate.getD
      settings.latestInstallerShareTemplate

/-- The display section with a patch merged in. -/
def GuacamoleDisplaySettings.merge
    (settings : GuacamoleDisplaySettings)
    (patch : GuacamoleDisplaySettingsPatch) :
    GuacamoleDisplaySettings where
  mode := patch.mode.getD settings.mode
  width := patch.width.or settings.width
  height := patch.height.or settings.height
  dpi := patch.dpi.getD settings.dpi

/-- The recording section with a patch merged in. -/
def GuacamoleRecordingSettings.merge
    (settings : GuacamoleRecordingSettings)
    (patch : GuacamoleRecordingSettingsPatch) :
    GuacamoleRecordingSettings where
  enabled := patch.enabled.getD settings.enabled
  browseUrl := patch.browseUrl.getD settings.browseUrl
  pathTemplate := patch.pathTemplate.getD settings.pathTemplate
  nameTemplate := patch.nameTemplate.getD settings.nameTemplate
  createPath := patch.createPath.getD settings.createPath
  excludeOutput := patch.excludeOutput.getD settings.excludeOutput
  excludeMouse := patch.excludeMouse.getD settings.excludeMouse
  excludeTouch := patch.excludeTouch.getD settings.excludeTouch
  includeKeys := patch.includeKeys.getD settings.includeKeys

/-- The Guacamole section with a patch merged in. -/
def GuacamoleSettings.merge
    (settings : GuacamoleSettings)
    (patch : GuacamoleSettingsPatch) : GuacamoleSettings where
  display := patch.display.elim settings.display settings.display.merge
  recording :=
    patch.recording.elim settings.recording settings.recording.merge

namespace ServerSettings

/-- `_deep_merge`, of a patch without an identity section. -/
def deepMerge
    (settings : ServerSettings)
    (patch : ServerSettingsPatch) : ServerSettings :=
  { settings with
    deployment :=
      patch.deployment.elim settings.deployment settings.deployment.merge
    guacamole :=
      patch.guacamole.elim settings.guacamole settings.guacamole.merge }

end ServerSettings

/-! ### The identity section -/

def cleanedItems (items : List String) : List String :=
  (items.map strip).filter (· ≠ "")

def givenOr (given : Option String) (stored : String) : String :=
  let clean := strip (given.getD "")
  if clean ≠ "" then clean else stored

namespace AzureSsoPatch

/-- `activate`. -/
def activates (azure : AzureSsoPatch) : Bool :=
  azure.activate == some true

/-- The immutable fields that a patch would change. -/
def immutableChanges
    (azure : AzureSsoPatch)
    (current : AzureSsoSettings) : List String :=
  (if azure.tenantId.all (· = current.tenantId) then [] else
      ["tenant_id"]) ++
    (if azure.clientId.all (· = current.clientId) then [] else
        ["client_id"]) ++
      if azure.authorityUrl.all (· = current.authorityUrl) then [] else
        ["authority_url"]

end AzureSsoPatch

def IdentitySettings.Locked (identity : IdentitySettings) : Prop :=
  identity.provider = .azureEntra ∧ identity.providerLocked = true

instance (identity : IdentitySettings) : Decidable identity.Locked :=
  inferInstanceAs (Decidable (_ ∧ _))

/-- An access section whose lists are cleaned. -/
def IdentityAccessSettingsPatch.cleaned
    (access : IdentityAccessSettingsPatch) :
    IdentityAccessSettingsPatch :=
  { access with
    allowedUserSubjects := access.allowedUserSubjects.map cleanedItems
    allowedGroupIds := access.allowedGroupIds.map cleanedItems }

/-- An identity section whose lists are cleaned. -/
def IdentitySettingsPatch.cleaned (identity : IdentitySettingsPatch) :
    IdentitySettingsPatch :=
  { identity with
    access := identity.access.map IdentityAccessSettingsPatch.cleaned }

def prepareIdentityPatch
    (current : IdentitySettings)
    (requested : IdentitySettingsPatch) :
    Except String IdentitySettingsPatch := do
  if requested.sessionTtlSeconds.any (· < 900) then
    throw "Session TTL must be at least 900 seconds"
  match requested.azure with
  | none =>
    return requested.cleaned
  | some azure =>
    let changes := azure.immutableChanges current.azure
    if current.Locked ∧ changes ≠ [] then
      throw
        ("Azure SSO provider is locked. Immutable fields cannot change: " ++
          ", ".intercalate changes)
    if azure.activates = true ∧
        (givenOr azure.tenantId current.azure.tenantId = "" ∨
          givenOr azure.clientId current.azure.clientId = "") then
      throw "Azure SSO activation requires tenant_id and client_id"
    return requested.cleaned

/-- A mapping with what the patch leaves out at its default. -/
def IdentityGroupRoleMappingPatch.completed
    (mapping : IdentityGroupRoleMappingPatch) :
    IdentityGroupRoleMapping :=
  IdentityGroupRoleMapping.validated
    { groupObjectId := mapping.groupObjectId.getD ""
      groupName := mapping.groupName.getD ""
      appRoles := mapping.appRoles.getD [] }

/-- The access section with a patch merged in. -/
def IdentityAccessSettings.merge
    (settings : IdentityAccessSettings)
    (patch : IdentityAccessSettingsPatch) : IdentityAccessSettings where
  mode := patch.mode.getD settings.mode
  allowMappedGroups :=
    patch.allowMappedGroups.getD settings.allowMappedGroups
  allowedUserSubjects :=
    patch.allowedUserSubjects.getD settings.allowedUserSubjects
  allowedGroupIds := patch.allowedGroupIds.getD settings.allowedGroupIds

/-- The Azure section with a patch merged in. -/
def AzureSsoSettings.merge
    (settings : AzureSsoSettings)
    (patch : AzureSsoPatch)
    (now : Int) : AzureSsoSettings where
  tenantId := patch.tenantId.getD settings.tenantId
  clientId := patch.clientId.getD settings.clientId
  clientSecret := patch.clientSecret.getD settings.clientSecret
  authorityUrl := patch.authorityUrl.getD settings.authorityUrl
  redirectPath := microsoftSsoRedirectPath
  scopes := patch.scopes.getD settings.scopes
  groupRoleMappings :=
    (patch.groupRoleMappings.map
        (·.map IdentityGroupRoleMappingPatch.completed)).getD
      settings.groupRoleMappings
  activatedAt :=
    if patch.activates then
      some ((settings.activatedAt.filter (· ≠ 0)).getD now)
    else
      settings.activatedAt

def buildIdentityPayloadAfterUpdate
    (current : IdentitySettings)
    (patch : IdentitySettingsPatch)
    (now : Int) : IdentitySettings :=
  let activates := patch.azure.any AzureSsoPatch.activates
  { provider := if activates then .azureEntra else current.provider
    providerLocked := activates || current.providerLocked
    sessionTtlSeconds :=
      patch.sessionTtlSeconds.getD current.sessionTtlSeconds
    access := patch.access.elim current.access current.access.merge
    azure :=
      patch.azure.elim current.azure fun azure =>
        current.azure.merge azure now }

/-! ### The request -/

/-- A PATCH of the settings, and the time of its handler. -/
structure SettingsRequest where
  isAdmin : Bool := true
  body : ServerSettingsPatch
  now : Int := 0

/-- Why a PATCH is refused. -/
inductive SettingsRefusal where
  | outOfBounds
  | adminRoleRequired
  | invalid (message : String)

/-- What a PATCH hands to the settings service. -/
inductive SettingsWrite where
  | update (patch : ServerSettingsPatch)
  | replace (settings : ServerSettings)

/-- The document that replaces a snapshot, `next_payload`. -/
def ServerSettings.withIdentity
    (current : ServerSettings)
    (deployment : Option DeploymentDefaultsPatch)
    (identityPatch : IdentitySettingsPatch)
    (now : Int) : ServerSettings :=
  ServerSettings.validated
    { current with
      deployment :=
        deployment.elim current.deployment current.deployment.merge
      identity :=
        buildIdentityPayloadAfterUpdate current.identity identityPatch
          now }

/-- `api_update_server_settings`, up to the call of the service. -/
def SettingsRequest.plan
    (request : SettingsRequest)
    (current : ServerSettings) :
    Except SettingsRefusal SettingsWrite := do
  if ¬ request.body.WithinBounds then
    throw .outOfBounds
  if request.isAdmin = false then
    throw .adminRoleRequired
  let patch := request.body.trimmed
  match patch.identity with
  | none =>
    return .update patch
  | some requested =>
    let identityPatch ←
      (prepareIdentityPatch current.identity requested).mapError .invalid
    return .replace
      (current.withIdentity patch.deployment identityPatch request.now)

/-- The settings that the service saves, if it saves any. -/
def SettingsWrite.saved?
    (write : SettingsWrite)
    (current : ServerSettings) : Option ServerSettings :=
  match write with
  | .update patch =>
    if patch.deployment.isNone ∧ patch.guacamole.isNone then
      none
    else
      some (current.deepMerge patch).validated
  | .replace settings =>
    some settings

theorem prepareIdentityPatch_ok
    {identity : IdentitySettings}
    {requested patch : IdentitySettingsPatch}
    (prepared : prepareIdentityPatch identity requested = .ok patch) :
    patch = requested.cleaned ∧
      ∀ azure ∈ requested.azure,
        (identity.Locked → azure.immutableChanges identity.azure = []) ∧
          (azure.activates = true →
            givenOr azure.tenantId identity.azure.tenantId ≠ "" ∧
              givenOr azure.clientId identity.azure.clientId ≠ "") := by
  unfold prepareIdentityPatch at prepared
  simp only [bind, Except.bind, throw, throwThe, MonadExceptOf.throw,
    pure, Except.pure] at prepared
  split at prepared
  · cases prepared
  cases given : requested.azure with
  | none =>
    simp only [given] at prepared
    cases prepared
    exact ⟨rfl, nofun⟩
  | some azure =>
    simp only [given] at prepared
    split at prepared
    · cases prepared
    rename_i unchanged
    split at prepared
    · cases prepared
    rename_i complete
    cases prepared
    refine ⟨rfl, ?_⟩
    rintro _ ⟨⟩
    constructor
    · intro isLocked
      by_contra changes
      exact unchanged ⟨isLocked, changes⟩
    · intro activates
      exact not_or.mp fun missing => complete ⟨activates, missing⟩

theorem SettingsRequest.plan_ok
    {request : SettingsRequest}
    {current : ServerSettings}
    {write : SettingsWrite}
    (planned : request.plan current = .ok write) :
    request.isAdmin = true ∧ request.body.WithinBounds ∧
      (request.body.trimmed.identity = none ∧
          write = .update request.body.trimmed ∨
        ∃ requested patch,
          request.body.trimmed.identity = some requested ∧
            prepareIdentityPatch current.identity requested = .ok patch ∧
              write =
                .replace
                  (current.withIdentity request.body.trimmed.deployment
                    patch request.now)) := by
  unfold SettingsRequest.plan at planned
  simp only [bind, Except.bind, throw, throwThe, MonadExceptOf.throw,
    pure, Except.pure] at planned
  split at planned
  · cases planned
  rename_i within
  split at planned
  · cases planned
  rename_i isAdmin
  refine ⟨Bool.of_not_eq_false isAdmin, not_not.mp within, ?_⟩
  split at planned
  · rename_i asked
    obtain rfl := Except.ok.inj planned
    exact .inl ⟨asked, rfl⟩
  · rename_i requested asked
    split at planned
    · cases planned
    · rename_i patch accepted
      obtain rfl := Except.ok.inj planned
      refine .inr ⟨requested, patch, asked, ?_, rfl⟩
      cases prepared : prepareIdentityPatch current.identity requested with
      | error message =>
        rw [prepared] at accepted
        cases accepted
      | ok found =>
        rw [prepared] at accepted
        obtain rfl := Except.ok.inj accepted
        rfl

theorem SettingsWrite.saved?_update
    {patch : ServerSettingsPatch}
    {current next : ServerSettings}
    (saves : (SettingsWrite.update patch).saved? current = some next) :
    next = (current.deepMerge patch).validated := by
  unfold SettingsWrite.saved? at saves
  dsimp only at saves
  split at saves
  · cases saves
  · exact (Option.some.inj saves).symm

end RpaPlatform.Settings
