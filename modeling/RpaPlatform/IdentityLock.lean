import RpaPlatform.ServerSettings

namespace RpaPlatform.Settings

open Agents (strip)
open Transition

/-!
# The identity provider that is locked

Activating Azure locks the provider: its identifiers may not be changed any
more.  The activation is checked against the identifiers that a patch gives or
else the stored ones, while the document is built from those that the patch
gives, and one that is given as an empty text counts as given there.
-/

/-- A PATCH while no other one is handled. -/
def SettingsRequest.applied
    (request : SettingsRequest)
    (current : ServerSettings) : ServerSettings :=
  match request.plan current with
  | .error _ => current
  | .ok write => (write.saved? current).getD current

/-- Every request is a step. -/
def patchStep?
    (settings : ServerSettings)
    (request : SettingsRequest) : Option ServerSettings :=
  some (request.applied settings)

/-- The fields that the lock is about. -/
structure ProviderFields where
  provider : IdentityProvider
  providerLocked : Bool
  tenantId : String
  clientId : String
  authorityUrl : String
deriving DecidableEq

/-- The fields of the identity section that the lock is about. -/
def IdentitySettings.providerFields (identity : IdentitySettings) :
    ProviderFields where
  provider := identity.provider
  providerLocked := identity.providerLocked
  tenantId := identity.azure.tenantId
  clientId := identity.azure.clientId
  authorityUrl := identity.azure.authorityUrl

def IdentitySettings.Named (identity : IdentitySettings) : Prop :=
  identity.Locked →
  identity.azure.tenantId ≠ "" ∧ identity.azure.clientId ≠ ""

instance (identity : IdentitySettings) : Decidable identity.Named :=
  inferInstanceAs (Decidable (_ → _))

/--
From the default settings, a provider that is locked has its identifiers, and
what the lock is about stays.
-/
structure LocksProvider
    (step : ServerSettings → SettingsRequest → ServerSettings → Prop) :
    Prop where
  named :
    ∀ {requests : List SettingsRequest} {reached : ServerSettings},
      Run step {} requests reached →
      reached.identity.Named
  fixed :
    ∀ {requests later : List SettingsRequest}
      {reached final : ServerSettings},
      Run step {} requests reached →
      reached.identity.Locked →
      Run step reached later final →
      final.identity.providerFields = reached.identity.providerFields

/-- An activation that passes its check gives no empty identifier. -/
def AzureSsoPatch.NamesProvider
    (azure : AzureSsoPatch)
    (current : IdentitySettings) : Prop :=
  azure.activates = true →
  ¬ current.Locked →
  givenOr azure.tenantId current.azure.tenantId ≠ "" →
  givenOr azure.clientId current.azure.clientId ≠ "" →
  azure.tenantId ≠ some "" ∧ azure.clientId ≠ some ""

instance (azure : AzureSsoPatch) (current : IdentitySettings) :
    Decidable (azure.NamesProvider current) :=
  inferInstanceAs (Decidable (_ → _ → _ → _ → _))

def SettingsRequest.azure? (request : SettingsRequest) :
    Option AzureSsoPatch :=
  request.body.trimmed.identity.bind IdentitySettingsPatch.azure

/--
The condition under which a locked provider has its identifiers: no PATCH that
is checked for its activation, and passes, gives an empty one.
-/
def ActivatesNamed
    (settings : ServerSettings)
    (request : SettingsRequest) : Prop :=
  request.isAdmin = true →
  request.body.WithinBounds →
  ∀ azure ∈ request.azure?, azure.NamesProvider settings.identity

instance (settings : ServerSettings) (request : SettingsRequest) :
    Decidable (ActivatesNamed settings request) :=
  inferInstanceAs (Decidable (_ → _ → ∀ azure ∈ request.azure?, _))

/-! ### What a request does to the identity section -/

section Steps

variable
    {current settings : ServerSettings}
    {request : SettingsRequest}

def ServerSettings.Valid (settings : ServerSettings) : Prop :=
  settings.validated = settings

@[simp]
theorem ServerSettings.validated_validated (settings : ServerSettings) :
    settings.validated.validated = settings.validated := by
  simp [ServerSettings.validated, validated_comp_validated]

theorem given_of_immutableChanges
    {azure : AzureSsoPatch}
    {stored : AzureSsoSettings}
    (unchanged : azure.immutableChanges stored = []) :
    azure.tenantId.getD stored.tenantId = stored.tenantId ∧
      azure.clientId.getD stored.clientId = stored.clientId ∧
        azure.authorityUrl.getD stored.authorityUrl = stored.authorityUrl := by
  have same :
      ∀ {given : Option String} {text name : String},
        (if given.all (· = text) then ([] : List String) else [name]) =
            [] →
          given.getD text = text := by
    intro given text name empty
    split at empty
    · rename_i agrees
      cases given with
      | none => rfl
      | some value => exact of_decide_eq_true agrees
    · cases empty
  unfold AzureSsoPatch.immutableChanges at unchanged
  obtain ⟨sameIds, sameUrl⟩ := List.append_eq_nil_iff.mp unchanged
  obtain ⟨sameTenant, sameClient⟩ := List.append_eq_nil_iff.mp sameIds
  exact ⟨same sameTenant, same sameClient, same sameUrl⟩

theorem applied_cases
    (current : ServerSettings)
    (request : SettingsRequest) :
    request.applied current = current ∨
      request.isAdmin = true ∧ request.body.WithinBounds ∧
        ((∃ patch,
            request.applied current = (current.deepMerge patch).validated) ∨
          ∃ requested patch,
            request.body.trimmed.identity = some requested ∧
              prepareIdentityPatch current.identity requested = .ok patch ∧
              request.applied current =
                current.withIdentity request.body.trimmed.deployment patch
                  request.now) := by
  unfold SettingsRequest.applied
  cases planned : request.plan current with
  | error refusal =>
    exact .inl rfl
  | ok write =>
    obtain ⟨isAdmin, within, kinds⟩ := request.plan_ok planned
    rcases kinds with ⟨_, rfl⟩ | ⟨requested, patch, asked, prepared, rfl⟩
    · dsimp only
      cases saves :
          (SettingsWrite.update request.body.trimmed).saved? current with
      | none =>
        exact .inl rfl
      | some next =>
        exact .inr ⟨isAdmin, within, .inl
          ⟨_, SettingsWrite.saved?_update saves⟩⟩
    · exact .inr ⟨isAdmin, within, .inr
        ⟨requested, patch, asked, prepared, rfl⟩⟩

theorem valid_applied
    (valid : current.Valid) :
    (request.applied current).Valid := by
  rcases applied_cases current request with
    same | ⟨_, _, ⟨patch, merged⟩ | ⟨_, patch, _, _, replaced⟩⟩
  · rw [same]
    exact valid
  · rw [merged]
    exact ServerSettings.validated_validated _
  · rw [replaced]
    exact ServerSettings.validated_validated _

theorem identity_deepMerge
    (valid : current.Valid)
    (patch : ServerSettingsPatch) :
    (current.deepMerge patch).validated.identity = current.identity :=
  have same : current.validated.identity = current.identity :=
    congrArg ServerSettings.identity valid
  same

theorem trimmed_of_valid
    (valid : current.Valid) :
    trim current.identity.azure.tenantId =
        current.identity.azure.tenantId ∧
      trim current.identity.azure.clientId =
          current.identity.azure.clientId ∧
        trim current.identity.azure.authorityUrl =
          current.identity.azure.authorityUrl := by
  have same : current.validated.identity.azure = current.identity.azure :=
    congrArg (fun settings => settings.identity.azure) valid
  unfold ServerSettings.validated at same
  dsimp only at same
  exact
    ⟨congrArg AzureSsoSettings.tenantId same,
      congrArg AzureSsoSettings.clientId same,
      congrArg AzureSsoSettings.authorityUrl same⟩

theorem providerFields_applied
    (valid : current.Valid)
    (isLocked : current.identity.Locked)
    (request : SettingsRequest) :
    (request.applied current).identity.providerFields =
      current.identity.providerFields := by
  rcases applied_cases current request with
    same | ⟨_, _, ⟨patch, merged⟩ | ⟨asked, patch, _, prepared, replaced⟩⟩
  · rw [same]
  · rw [merged, identity_deepMerge valid]
  · rw [replaced]
    obtain ⟨isAzure, isLockedFlag⟩ := isLocked
    obtain ⟨tenant, client, authority⟩ := trimmed_of_valid valid
    obtain ⟨isCleaned, checks⟩ := prepareIdentityPatch_ok prepared
    have sameAzure : patch.azure = asked.azure := by
      rw [isCleaned]
      rfl
    unfold ServerSettings.withIdentity buildIdentityPayloadAfterUpdate
      ServerSettings.validated IdentitySettings.providerFields
    cases given : patch.azure with
    | none =>
      simp [isAzure, isLockedFlag, tenant, client, authority]
    | some azure =>
      obtain ⟨keepsImmutable, _⟩ := checks azure (sameAzure ▸ given)
      obtain ⟨sameTenant, sameClient, sameUrl⟩ :=
        given_of_immutableChanges (keepsImmutable ⟨isAzure, isLockedFlag⟩)
      simp [AzureSsoSettings.merge, sameTenant, sameClient, sameUrl,
        isAzure, isLockedFlag, tenant, client, authority]

theorem nonempty_of_givenOr
    {given : Option String}
    {stored : String}
    (isTrimmed : given.map trim = given)
    (storedTrimmed : trim stored = stored)
    (there : givenOr given stored ≠ "")
    (notEmpty : given ≠ some "") :
    trim (given.getD stored) ≠ "" := by
  cases given with
  | none =>
    have blank : strip "" = "" := by decide
    unfold givenOr at there
    simp only [Option.getD_none, blank, ne_eq, not_true_eq_false,
      if_false] at there
    rw [Option.getD_none, storedTrimmed]
    exact there
  | some text =>
    have same : trim text = text := Option.some.inj isTrimmed
    rw [Option.getD_some, same]
    rintro rfl
    exact notEmpty rfl

theorem trimmed_of_azure?
    {azure : AzureSsoPatch}
    (asked : request.azure? = some azure) :
    azure.tenantId.map trim = azure.tenantId ∧
      azure.clientId.map trim = azure.clientId := by
  obtain ⟨identity, isIdentity, isAzure⟩ :=
    Option.bind_eq_some_iff.mp asked
  obtain ⟨raw, _, rfl⟩ := Option.map_eq_some_iff.mp isIdentity
  obtain ⟨given, _, rfl⟩ := Option.map_eq_some_iff.mp isAzure
  simp [AzureSsoPatch.trimmed]

/-- Where the condition is met, a provider gets locked with identifiers. -/
theorem named_applied
    (valid : current.Valid)
    (named : current.identity.Named)
    (activates : ActivatesNamed current request) :
    (request.applied current).identity.Named := by
  by_cases wasLocked : current.identity.Locked
  · -- What is locked stays, and with it the identifiers.
    have same := providerFields_applied valid wasLocked request
    intro _
    have tenant :
        (request.applied current).identity.azure.tenantId =
          current.identity.azure.tenantId :=
      congrArg ProviderFields.tenantId same
    have client :
        (request.applied current).identity.azure.clientId =
          current.identity.azure.clientId :=
      congrArg ProviderFields.clientId same
    rw [tenant, client]
    exact named wasLocked
  rcases applied_cases current request with
    same | ⟨isAdmin, within, ⟨patch, merged⟩ |
      ⟨asked, patch, isAsked, prepared, replaced⟩⟩
  · rw [same]
    exact named
  · rw [merged, identity_deepMerge valid]
    exact named
  · rw [replaced]
    intro isLocked
    obtain ⟨tenant, client, _⟩ := trimmed_of_valid valid
    obtain ⟨isCleaned, checks⟩ := prepareIdentityPatch_ok prepared
    have sameAzure : patch.azure = asked.azure := by
      rw [isCleaned]
      rfl
    unfold ServerSettings.withIdentity buildIdentityPayloadAfterUpdate
      ServerSettings.validated at isLocked ⊢
    cases given : patch.azure with
    | none =>
      rw [given] at isLocked
      exact absurd isLocked wasLocked
    | some azure =>
      rw [given] at isLocked
      have isAzure : asked.azure = some azure := sameAzure ▸ given
      have isGiven : request.azure? = some azure := by
        unfold SettingsRequest.azure?
        rw [isAsked]
        exact isAzure
      obtain ⟨tenantTrimmed, clientTrimmed⟩ := trimmed_of_azure? isGiven
      cases active : azure.activates with
      | false =>
        unfold IdentitySettings.Locked at isLocked
        simp only [Option.any_some, active, Bool.false_eq_true,
          if_false, Bool.false_or] at isLocked
        exact absurd isLocked wasLocked
      | true =>
        obtain ⟨hasTenant, hasClient⟩ := (checks azure isAzure).2 active
        obtain ⟨tenantGiven, clientGiven⟩ :=
          activates isAdmin within azure isGiven active wasLocked
            hasTenant hasClient
        exact
          ⟨nonempty_of_givenOr tenantTrimmed tenant hasTenant
              tenantGiven,
            nonempty_of_givenOr clientTrimmed client hasClient clientGiven⟩

end Steps

theorem valid_default : ServerSettings.Valid {} := by
  unfold ServerSettings.Valid
  decide

theorem providerFields_of_run
    {requests : List SettingsRequest}
    {reached final : ServerSettings}
    (valid : reached.Valid)
    (isLocked : reached.identity.Locked)
    (run : Run (Fires patchStep?) reached requests final) :
    final.identity.providerFields = reached.identity.providerFields := by
  have holds :
      final.Valid ∧
        final.identity.providerFields = reached.identity.providerFields := by
    apply run.preserves ?_ ⟨valid, rfl⟩
    rintro before request after fired ⟨beforeValid, same⟩
    cases fired
    have stillLocked : before.identity.Locked :=
      ⟨(congrArg ProviderFields.provider same).trans isLocked.1,
        (congrArg ProviderFields.providerLocked same).trans isLocked.2⟩
    exact
      ⟨valid_applied beforeValid,
        (providerFields_applied beforeValid stillLocked _).trans same⟩
  exact holds.2

/-- Where the condition is met, the lock of the provider holds. -/
theorem locksProvider_of_activatesNamed
    {requests later : List SettingsRequest}
    {reached final : ServerSettings}
    (run : Run (Guarded (Fires patchStep?) ActivatesNamed) {} requests reached)
    (continued :
      Run (Guarded (Fires patchStep?) ActivatesNamed) reached later final) :
    reached.identity.Named ∧
      (reached.identity.Locked →
        final.identity.providerFields = reached.identity.providerFields) := by
  have holds : reached.Valid ∧ reached.identity.Named := by
    apply run.preserves ?_ ⟨valid_default, by decide⟩
    rintro before request after ⟨fired, activates⟩ ⟨valid, named⟩
    obtain rfl := Option.some.inj fired
    exact ⟨valid_applied valid, named_applied valid named activates⟩
  refine ⟨holds.2, fun isLocked => ?_⟩
  exact providerFields_of_run holds.1 isLocked continued.unguarded

/-! ### Activating Azure -/

def azureRequest (azure : AzureSsoPatch) : SettingsRequest where
  body := { identity := some { azure := some azure } }
  now := 1000

/-- The identifiers are stored first, and then Azure is activated. -/
def activatedLater : List SettingsRequest :=
  [azureRequest { tenantId := some " tenant ", clientId := some "client" },
    azureRequest { activate := some true }]

/-- A request that would change an identifier, and one that would not. -/
def afterwards : List SettingsRequest :=
  [azureRequest { tenantId := some "other" },
    azureRequest { tenantId := some "tenant", clientSecret := some "s" }]

theorem activatedLater_locked :
    ∃ reached final : ServerSettings,
      Run (Guarded (Fires patchStep?) ActivatesNamed) {} activatedLater
          reached ∧
        Run (Guarded (Fires patchStep?) ActivatesNamed) reached afterwards
          final ∧
          reached.identity.Locked ∧ reached.identity.Named ∧
            final.identity.azure.clientSecret = "s" ∧
              final.identity.providerFields =
                reached.identity.providerFields := by
  have tested :
      (execute (checked patchStep? ActivatesNamed) {} activatedLater).any
          (fun reached =>
            decide reached.identity.Locked &&
              (execute (checked patchStep? ActivatesNamed) reached
                  afterwards).any
                fun final =>
                  decide (final.identity.azure.clientSecret = "s")) =
        true := by
    decide
  obtain ⟨reached, checkedRun, holds⟩ := exists_run_of_execute tested
  rw [Bool.and_eq_true, decide_eq_true_eq] at holds
  obtain ⟨isLocked, continued⟩ := holds
  obtain ⟨final, checkedLater, stored⟩ := exists_run_of_execute continued
  have run := checkedRun.guarded_of_checked
  have later := checkedLater.guarded_of_checked
  obtain ⟨named, fixed⟩ := locksProvider_of_activatesNamed run later
  exact
    ⟨reached, final, run, later, isLocked, named, of_decide_eq_true stored,
      fixed isLocked⟩

/-- An activation with an empty tenant passes, and locks the provider. -/
theorem not_locksProvider : ¬ LocksProvider (Fires patchStep?) := by
  intro claimed
  obtain ⟨reached, run, holds⟩ :=
    exists_run_of_execute
      (show (execute patchStep? {}
          [azureRequest
              { tenantId := some "tenant", clientId := some "client" },
            azureRequest { tenantId := some "", activate := some true }]).any
          (fun reached =>
            decide
              (reached.identity.Locked ∧
                reached.identity.azure.tenantId = "")) = true by
        decide)
  obtain ⟨isLocked, empty⟩ := of_decide_eq_true holds
  exact (claimed.named run isLocked).1 empty

end RpaPlatform.Settings
