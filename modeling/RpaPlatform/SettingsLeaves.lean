import RpaPlatform.ServerSettings

namespace RpaPlatform.Settings

/-!
# The leaves of the settings document

A PATCH gives values for some leaves of the document.  The document that is
computed for it has these values, trimmed, and the earlier ones at every other
leaf.
-/

/-- The leaves of the document. -/
inductive SettingsLeaf where
  | defaultRepoUrl
  | artifactShareRoot
  | latestInstallerShareTemplate
  | provider
  | providerLocked
  | sessionTtlSeconds
  | accessMode
  | allowMappedGroups
  | allowedUserSubjects
  | allowedGroupIds
  | tenantId
  | clientId
  | clientSecret
  | authorityUrl
  | redirectPath
  | scopes
  | groupRoleMappings
  | activatedAt
  | displayMode
  | width
  | height
  | dpi
  | recordingEnabled
  | browseUrl
  | pathTemplate
  | nameTemplate
  | createPath
  | excludeOutput
  | excludeMouse
  | excludeTouch
  | includeKeys
deriving DecidableEq

namespace SettingsLeaf

/-- What a leaf holds. -/
def Value : SettingsLeaf → Type
  | defaultRepoUrl | artifactShareRoot | latestInstallerShareTemplate
  | tenantId | clientId | clientSecret | authorityUrl | redirectPath
  | browseUrl | pathTemplate | nameTemplate => String
  | provider => IdentityProvider
  | sessionTtlSeconds | dpi => Int
  | accessMode => AccessMode
  | allowedUserSubjects | allowedGroupIds | scopes => List String
  | groupRoleMappings => List IdentityGroupRoleMapping
  | activatedAt | width | height => Option Int
  | displayMode => DisplayMode
  | providerLocked | allowMappedGroups | recordingEnabled | createPath
  | excludeOutput | excludeMouse | excludeTouch | includeKeys => Bool

/-- What a leaf holds once it has been validated. -/
def validated : (leaf : SettingsLeaf) → leaf.Value → leaf.Value
  | defaultRepoUrl, text => trim text
  | artifactShareRoot, text => trim text
  | latestInstallerShareTemplate, text => trim text
  | tenantId, text => trim text
  | clientId, text => trim text
  | clientSecret, text => trim text
  | authorityUrl, text => trim text
  | redirectPath, text => trim text
  | browseUrl, text => trim text
  | pathTemplate, text => trim text
  | nameTemplate, text => trim text
  | allowedUserSubjects, texts => List.map trim texts
  | allowedGroupIds, texts => List.map trim texts
  | scopes, texts => List.map trim texts
  | groupRoleMappings, mappings =>
    List.map IdentityGroupRoleMapping.validated mappings
  | provider, value => value
  | sessionTtlSeconds, value => value
  | dpi, value => value
  | accessMode, value => value
  | activatedAt, value => value
  | width, value => value
  | height, value => value
  | displayMode, value => value
  | providerLocked, value => value
  | allowMappedGroups, value => value
  | recordingEnabled, value => value
  | createPath, value => value
  | excludeOutput, value => value
  | excludeMouse, value => value
  | excludeTouch, value => value
  | includeKeys, value => value

end SettingsLeaf

/-- A leaf of a document. -/
def ServerSettings.leaf
    (settings : ServerSettings) :
    (leaf : SettingsLeaf) → leaf.Value
  | .defaultRepoUrl => settings.deployment.defaultRepoUrl
  | .artifactShareRoot => settings.deployment.artifactShareRoot
  | .latestInstallerShareTemplate =>
    settings.deployment.latestInstallerShareTemplate
  | .provider => settings.identity.provider
  | .providerLocked => settings.identity.providerLocked
  | .sessionTtlSeconds => settings.identity.sessionTtlSeconds
  | .accessMode => settings.identity.access.mode
  | .allowMappedGroups => settings.identity.access.allowMappedGroups
  | .allowedUserSubjects => settings.identity.access.allowedUserSubjects
  | .allowedGroupIds => settings.identity.access.allowedGroupIds
  | .tenantId => settings.identity.azure.tenantId
  | .clientId => settings.identity.azure.clientId
  | .clientSecret => settings.identity.azure.clientSecret
  | .authorityUrl => settings.identity.azure.authorityUrl
  | .redirectPath => settings.identity.azure.redirectPath
  | .scopes => settings.identity.azure.scopes
  | .groupRoleMappings => settings.identity.azure.groupRoleMappings
  | .activatedAt => settings.identity.azure.activatedAt
  | .displayMode => settings.guacamole.display.mode
  | .width => settings.guacamole.display.width
  | .height => settings.guacamole.display.height
  | .dpi => settings.guacamole.display.dpi
  | .recordingEnabled => settings.guacamole.recording.enabled
  | .browseUrl => settings.guacamole.recording.browseUrl
  | .pathTemplate => settings.guacamole.recording.pathTemplate
  | .nameTemplate => settings.guacamole.recording.nameTemplate
  | .createPath => settings.guacamole.recording.createPath
  | .excludeOutput => settings.guacamole.recording.excludeOutput
  | .excludeMouse => settings.guacamole.recording.excludeMouse
  | .excludeTouch => settings.guacamole.recording.excludeTouch
  | .includeKeys => settings.guacamole.recording.includeKeys

/-! ### What a patch gives -/

namespace ServerSettingsPatch

variable (patch : ServerSettingsPatch)

def access? : Option IdentityAccessSettingsPatch :=
  patch.identity.bind IdentitySettingsPatch.access

def azure? : Option AzureSsoPatch :=
  patch.identity.bind IdentitySettingsPatch.azure

def display? : Option GuacamoleDisplaySettingsPatch :=
  patch.guacamole.bind GuacamoleSettingsPatch.display

def recording? : Option GuacamoleRecordingSettingsPatch :=
  patch.guacamole.bind GuacamoleSettingsPatch.recording

def activates : Bool :=
  patch.azure?.any AzureSsoPatch.activates

/--
The value that a patch gives for a leaf.  An activation gives the provider and
its lock; the path that users are redirected to cannot be given.
-/
def gives? : (leaf : SettingsLeaf) → Option leaf.Value
  | .defaultRepoUrl => patch.deployment.bind (·.defaultRepoUrl)
  | .artifactShareRoot => patch.deployment.bind (·.artifactShareRoot)
  | .latestInstallerShareTemplate =>
    patch.deployment.bind (·.latestInstallerShareTemplate)
  | .provider =>
    if patch.activates then some IdentityProvider.azureEntra else none
  | .providerLocked => if patch.activates then some true else none
  | .sessionTtlSeconds => patch.identity.bind (·.sessionTtlSeconds)
  | .accessMode => patch.access?.bind (·.mode)
  | .allowMappedGroups => patch.access?.bind (·.allowMappedGroups)
  | .allowedUserSubjects =>
    (patch.access?.bind (·.allowedUserSubjects)).map cleanedItems
  | .allowedGroupIds =>
    (patch.access?.bind (·.allowedGroupIds)).map cleanedItems
  | .tenantId => patch.azure?.bind (·.tenantId)
  | .clientId => patch.azure?.bind (·.clientId)
  | .clientSecret => patch.azure?.bind (·.clientSecret)
  | .authorityUrl => patch.azure?.bind (·.authorityUrl)
  | .redirectPath => none
  | .scopes => patch.azure?.bind (·.scopes)
  | .groupRoleMappings =>
    (patch.azure?.bind (·.groupRoleMappings)).map
      (·.map IdentityGroupRoleMappingPatch.completed)
  | .activatedAt => none
  | .displayMode => patch.display?.bind (·.mode)
  | .width => (patch.display?.bind (·.width)).map some
  | .height => (patch.display?.bind (·.height)).map some
  | .dpi => patch.display?.bind (·.dpi)
  | .recordingEnabled => patch.recording?.bind (·.enabled)
  | .browseUrl => patch.recording?.bind (·.browseUrl)
  | .pathTemplate => patch.recording?.bind (·.pathTemplate)
  | .nameTemplate => patch.recording?.bind (·.nameTemplate)
  | .createPath => patch.recording?.bind (·.createPath)
  | .excludeOutput => patch.recording?.bind (·.excludeOutput)
  | .excludeMouse => patch.recording?.bind (·.excludeMouse)
  | .excludeTouch => patch.recording?.bind (·.excludeTouch)
  | .includeKeys => patch.recording?.bind (·.includeKeys)

def touches (leaf : SettingsLeaf) : Bool :=
  (patch.gives? leaf).isSome ||
    (patch.activates && decide (leaf = .activatedAt))

end ServerSettingsPatch

/-- A document contains what a patch gives. -/
structure ServerSettings.Contains
    (settings : ServerSettings)
    (patch : ServerSettingsPatch) : Prop where
  values :
    ∀ leaf value,
      patch.gives? leaf = some value →
      settings.leaf leaf = leaf.validated value
  activated :
    patch.activates = true →
    settings.identity.azure.activatedAt.isSome = true

def ServerSettingsPatch.Disjoint
    (first second : ServerSettingsPatch) : Prop :=
  ∀ leaf, first.touches leaf = false ∨ second.touches leaf = false

/-! ### What is computed for a patch -/

/-- A document with all that a patch gives merged in. -/
def ServerSettings.patched
    (settings : ServerSettings)
    (patch : ServerSettingsPatch)
    (now : Int) : ServerSettings :=
  ServerSettings.validated
    { deployment :=
        patch.deployment.elim settings.deployment settings.deployment.merge
      identity :=
        patch.identity.elim settings.identity fun identity =>
          buildIdentityPayloadAfterUpdate settings.identity identity.cleaned now
      guacamole :=
        patch.guacamole.elim settings.guacamole settings.guacamole.merge }

section Patched

variable
    {settings : ServerSettings}
    {patch : ServerSettingsPatch}

theorem SettingsLeaf.validated_validated
    (leaf : SettingsLeaf)
    (value : leaf.Value) :
    leaf.validated (leaf.validated value) = leaf.validated value := by
  have texts (items : List String) :
      (items.map trim).map trim = items.map trim := by
    rw [List.map_map, trim_comp_trim]
  have mapped (mappings : List IdentityGroupRoleMapping) :
      (mappings.map IdentityGroupRoleMapping.validated).map
          IdentityGroupRoleMapping.validated =
        mappings.map IdentityGroupRoleMapping.validated := by
    rw [List.map_map, validated_comp_validated]
  cases leaf with
  | defaultRepoUrl | artifactShareRoot | latestInstallerShareTemplate
  | tenantId | clientId | clientSecret | authorityUrl | redirectPath
  | browseUrl | pathTemplate | nameTemplate =>
    exact trim_trim value
  | allowedUserSubjects | allowedGroupIds | scopes =>
    exact texts value
  | groupRoleMappings =>
    exact mapped value
  | _ =>
    rfl

theorem ServerSettings.leaf_validated
    (settings : ServerSettings)
    (leaf : SettingsLeaf) :
    settings.validated.leaf leaf = leaf.validated (settings.leaf leaf) := by
  cases leaf <;> rfl

theorem leaf_patched
    (now : Int)
    {leaf : SettingsLeaf}
    (notTime : leaf ≠ .activatedAt)
    (notPath : leaf ≠ .redirectPath) :
    (settings.patched patch now).leaf leaf =
      leaf.validated ((patch.gives? leaf).getD (settings.leaf leaf)) := by
  unfold ServerSettings.patched
  rw [ServerSettings.leaf_validated]
  refine congrArg leaf.validated ?_
  obtain ⟨deployment, identity, guacamole⟩ := patch
  cases leaf with
  | defaultRepoUrl | artifactShareRoot | latestInstallerShareTemplate =>
    cases deployment <;> rfl
  | provider | providerLocked =>
    rcases identity with _ | ⟨ttl, access, _ | azure⟩
    · rfl
    · rfl
    · cases active : azure.activates
      all_goals
        simp only [ServerSettings.leaf, ServerSettingsPatch.gives?,
          ServerSettingsPatch.activates, ServerSettingsPatch.azure?,
          buildIdentityPayloadAfterUpdate,
          IdentitySettingsPatch.cleaned, Option.elim_some,
          Option.bind_some, Option.any_some, active,
          Bool.false_eq_true, if_true, if_false, Bool.true_or,
          Bool.false_or]
        rfl
  | sessionTtlSeconds =>
    cases identity <;> rfl
  | accessMode | allowMappedGroups | allowedUserSubjects
  | allowedGroupIds =>
    rcases identity with _ | ⟨ttl, _ | access, azure⟩ <;> rfl
  | tenantId | clientId | clientSecret | authorityUrl | scopes
  | groupRoleMappings =>
    rcases identity with _ | ⟨ttl, access, _ | azure⟩ <;> rfl
  | displayMode | dpi =>
    rcases guacamole with _ | ⟨_ | display, recording⟩ <;> rfl
  | width | height =>
    rcases guacamole with _ | ⟨_ | ⟨mode, _ | width, _ | height, dpi⟩,
      recording⟩ <;> rfl
  | recordingEnabled | browseUrl | pathTemplate | nameTemplate
  | createPath | excludeOutput | excludeMouse | excludeTouch
  | includeKeys =>
    rcases guacamole with _ | ⟨display, _ | recording⟩ <;> rfl
  | activatedAt =>
    exact absurd rfl notTime
  | redirectPath =>
    exact absurd rfl notPath

theorem activatedAt_patched (now : Int) :
    (settings.patched patch now).identity.azure.activatedAt =
      if patch.activates then
        some ((settings.identity.azure.activatedAt.filter (· ≠ 0)).getD now)
      else
        settings.identity.azure.activatedAt := by
  obtain ⟨deployment, identity, guacamole⟩ := patch
  rcases identity with _ | ⟨ttl, access, _ | azure⟩ <;> rfl

theorem contains_patched (now : Int) :
    (settings.patched patch now).Contains patch where
  values := by
    intro leaf value given
    rw [leaf_patched now ?_ ?_, given, Option.getD_some]
    · rintro rfl
      cases given
    · rintro rfl
      cases given
  activated := by
    intro activates
    rw [activatedAt_patched, if_pos activates]
    rfl

theorem ServerSettings.Contains.patched
    {other : ServerSettingsPatch}
    (contains : settings.Contains other)
    (disjoint : other.Disjoint patch)
    (now : Int) :
    (settings.patched patch now).Contains other where
  values := by
    intro leaf value given
    have untouched : patch.gives? leaf = none := by
      rcases disjoint leaf with alone | untouched
      · unfold ServerSettingsPatch.touches at alone
        rw [given] at alone
        cases alone
      · exact Option.not_isSome_iff_eq_none.mp fun isSome => by
          unfold ServerSettingsPatch.touches at untouched
          rw [isSome] at untouched
          cases untouched
    rw [leaf_patched now ?_ ?_, untouched, Option.getD_none,
      contains.values leaf value given, leaf.validated_validated]
    · rintro rfl
      cases given
    · rintro rfl
      cases given
  activated := by
    intro activates
    rw [activatedAt_patched]
    split
    · rfl
    · exact contains.activated activates

end Patched

end RpaPlatform.Settings
