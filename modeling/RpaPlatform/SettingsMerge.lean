import RpaPlatform.IdentityLock

namespace RpaPlatform.Settings

/-!
# A PATCH of the settings as a deep merge

What a PATCH leaves in the settings, beside the deep merge of the stored
document with the sections of its body.  Without an identity section the
service merges; with one the handler computes a whole document.
-/

/-! ### The deep merge -/

/-- The Azure section with every field that is given. -/
def AzureSsoSettings.overlaid
    (settings : AzureSsoSettings)
    (patch : AzureSsoPatch) : AzureSsoSettings where
  tenantId := patch.tenantId.getD settings.tenantId
  clientId := patch.clientId.getD settings.clientId
  clientSecret := patch.clientSecret.getD settings.clientSecret
  authorityUrl := patch.authorityUrl.getD settings.authorityUrl
  redirectPath := patch.redirectPath.getD settings.redirectPath
  scopes := patch.scopes.getD settings.scopes
  groupRoleMappings :=
    (patch.groupRoleMappings.map
        (·.map IdentityGroupRoleMappingPatch.completed)).getD
      settings.groupRoleMappings
  activatedAt := settings.activatedAt

/-- What an activation prescribes. -/
def IdentitySettings.activated
    (identity : IdentitySettings)
    (now : Int) : IdentitySettings :=
  { identity with
    provider := .azureEntra
    providerLocked := true
    azure :=
      { identity.azure with
        activatedAt :=
          some ((identity.azure.activatedAt.filter (· ≠ 0)).getD now) } }

/-- The identity section with every field that is given. -/
def IdentitySettings.overlaid
    (identity : IdentitySettings)
    (patch : IdentitySettingsPatch)
    (now : Int) : IdentitySettings :=
  let merged :=
    { identity with
      sessionTtlSeconds :=
        patch.sessionTtlSeconds.getD identity.sessionTtlSeconds
      access := patch.access.elim identity.access identity.access.merge
      azure := patch.azure.elim identity.azure identity.azure.overlaid }
  if patch.azure.any AzureSsoPatch.activates then
    merged.activated now
  else
    merged

/-- The document with every section that is given, validated. -/
def ServerSettings.overlaid
    (settings : ServerSettings)
    (patch : ServerSettingsPatch)
    (now : Int) : ServerSettings :=
  ServerSettings.validated
    { deployment :=
        patch.deployment.elim settings.deployment settings.deployment.merge
      identity :=
        patch.identity.elim settings.identity fun identity =>
          settings.identity.overlaid identity now
      guacamole :=
        patch.guacamole.elim settings.guacamole settings.guacamole.merge }

/-- A PATCH that is accepted stores the deep merge with what it gives. -/
def MergesDeeply
    (applied : SettingsRequest → ServerSettings → ServerSettings) : Prop :=
  ∀ {current : ServerSettings} {request : SettingsRequest}
    {write : SettingsWrite},
    current.Valid →
    request.plan current = .ok write →
    applied request current = current.overlaid request.body.trimmed request.now

/-- The redirect path that is given is not the one that is stored. -/
theorem not_mergesDeeply : ¬ MergesDeeply SettingsRequest.applied := by
  intro merges
  let request := azureRequest { redirectPath := some "/callback" }
  obtain ⟨write, planned⟩ : ∃ write, request.plan {} = .ok write :=
    ⟨_, rfl⟩
  have claimed :=
    congrArg (fun settings => settings.identity.azure.redirectPath)
      (merges valid_default planned)
  revert claimed
  decide

/-! ### What is prepared for the merge -/

def AzureSsoPatch.pinned (azure : AzureSsoPatch) : AzureSsoPatch :=
  { azure with redirectPath := some microsoftSsoRedirectPath }

/--
A patch whose access lists have lost their blank entries, and whose Azure
section gives the fixed redirect path.
-/
def ServerSettingsPatch.prepared (patch : ServerSettingsPatch) :
    ServerSettingsPatch :=
  { patch with
    identity :=
      patch.identity.map fun identity =>
        { identity.cleaned with
          azure := identity.azure.map AzureSsoPatch.pinned } }

@[simp]
theorem activates_pinned (azure : AzureSsoPatch) :
    azure.pinned.activates = azure.activates :=
  rfl

theorem AzureSsoSettings.merge_eq_overlaid
    (settings : AzureSsoSettings)
    (patch : AzureSsoPatch)
    (now : Int) :
    settings.merge patch now =
      { settings.overlaid patch.pinned with
        activatedAt :=
          if patch.activates then
            some ((settings.activatedAt.filter (· ≠ 0)).getD now)
          else
            settings.activatedAt } :=
  rfl

theorem buildIdentityPayloadAfterUpdate_eq_overlaid
    (current : IdentitySettings)
    (requested : IdentitySettingsPatch)
    (now : Int) :
    buildIdentityPayloadAfterUpdate current requested.cleaned now =
      current.overlaid
        { requested.cleaned with
          azure := requested.azure.map AzureSsoPatch.pinned }
        now := by
  have same : requested.cleaned.azure = requested.azure := rfl
  unfold buildIdentityPayloadAfterUpdate IdentitySettings.overlaid
  rw [same]
  cases requested.azure with
  | none =>
    rfl
  | some azure =>
    rw [Option.elim_some, AzureSsoSettings.merge_eq_overlaid]
    cases active : azure.activates with
    | true =>
      simp only [Option.any_some, active, ↓reduceIte, Bool.true_or,
        Option.map_some, activates_pinned, IdentitySettings.activated,
        Option.elim_some, IdentitySettings.mk.injEq, true_and]
      rfl
    | false =>
      simp only [Option.any_some, active, Bool.false_eq_true,
        ↓reduceIte, Bool.false_or, Option.map_some, activates_pinned,
        Option.elim_some, IdentitySettings.mk.injEq, true_and]
      rfl

section Requests

variable
    {current : ServerSettings}
    {request : SettingsRequest}
    {write : SettingsWrite}

theorem overlaid_of_update
    (valid : current.Valid)
    {patch : ServerSettingsPatch}
    (asked : patch.identity = none)
    (now : Int) :
    ((SettingsWrite.update patch).saved? current).getD current =
      current.overlaid patch.prepared now := by
  have merged :
      current.overlaid patch.prepared now =
        (current.deepMerge patch).validated := by
    unfold ServerSettings.overlaid ServerSettingsPatch.prepared
      ServerSettings.deepMerge
    rw [asked]
    rfl
  rw [merged]
  cases saves : (SettingsWrite.update patch).saved? current with
  | some next =>
    exact SettingsWrite.saved?_update saves
  | none =>
    unfold SettingsWrite.saved? at saves
    dsimp only at saves
    split at saves
    · rename_i nothing
      obtain ⟨noDeployment, noGuacamole⟩ := nothing
      unfold ServerSettings.deepMerge
      rw [Option.isNone_iff_eq_none.mp noDeployment,
        Option.isNone_iff_eq_none.mp noGuacamole]
      exact valid.symm
    · cases saves

/--
After a PATCH that is accepted, the deployment and the identity section are
those of the deep merge with what has been prepared.  So is the Guacamole
section, unless there is an identity section beside one for it in the body.
-/
theorem applied_eq_overlaid
    (valid : current.Valid)
    (planned : request.plan current = .ok write) :
    let stored := request.applied current
    let merged :=
      current.overlaid request.body.trimmed.prepared request.now
    stored.deployment = merged.deployment ∧
      stored.identity = merged.identity ∧
        (request.body.identity = none ∨ request.body.guacamole = none →
          stored = merged) := by
  intro stored merged
  obtain ⟨_, _, ⟨asked, rfl⟩ | ⟨requested, patch, asked, prepared, rfl⟩⟩ :=
    request.plan_ok planned
  · have same : stored = merged := by
      have applied := overlaid_of_update valid asked request.now
      show request.applied current = _
      unfold SettingsRequest.applied
      rw [planned]
      exact applied
    rw [same]
    exact ⟨rfl, rfl, fun _ => rfl⟩
  · obtain ⟨rfl, _⟩ := prepareIdentityPatch_ok prepared
    -- The two documents differ in the Guacamole section only.
    let document : GuacamoleSettings → ServerSettings := fun guacamole =>
      ServerSettings.validated
        { deployment :=
            request.body.trimmed.deployment.elim current.deployment
              current.deployment.merge
          identity :=
            buildIdentityPayloadAfterUpdate current.identity
              requested.cleaned request.now
          guacamole }
    have isStored : stored = document current.guacamole := by
      show request.applied current = _
      unfold SettingsRequest.applied
      rw [planned]
      rfl
    have isMerged :
        merged =
          document
            (request.body.trimmed.guacamole.elim current.guacamole
              current.guacamole.merge) := by
      show current.overlaid request.body.trimmed.prepared request.now = _
      unfold ServerSettings.overlaid ServerSettingsPatch.prepared
      dsimp only [document]
      rw [asked, buildIdentityPayloadAfterUpdate_eq_overlaid]
      rfl
    rw [isStored, isMerged]
    refine ⟨rfl, rfl, fun alone => ?_⟩
    have noGuacamole : request.body.trimmed.guacamole = none := by
      rcases alone with noIdentity | noGuacamole
      · rw [ServerSettingsPatch.trimmed, noIdentity] at asked
        cases asked
      · rw [ServerSettingsPatch.trimmed, noGuacamole]
        rfl
    rw [noGuacamole]
    rfl

end Requests

/-- Azure is activated, and the share of the installers is moved. -/
def activatingRequest : SettingsRequest where
  body :=
    { deployment := some { artifactShareRoot := some "//share" }
      identity :=
        some
          { access := some { allowedGroupIds := some ["group", " "] }
            azure :=
              some
                { tenantId := some "tenant"
                  clientId := some "client"
                  activate := some true } } }
  now := 1000

theorem activatingRequest_merged :
    ∃ write,
      activatingRequest.plan {} = .ok write ∧
        activatingRequest.applied {} =
          ServerSettings.overlaid {}
            activatingRequest.body.trimmed.prepared 1000 := by
  obtain ⟨write, planned⟩ : ∃ write, activatingRequest.plan {} = .ok write :=
    ⟨_, rfl⟩
  exact
    ⟨write, planned, (applied_eq_overlaid valid_default planned).2.2 (.inr rfl)⟩

end RpaPlatform.Settings
