import Mathlib.Data.List.Basic
import Taroai.Licensing.Service

/-! Entitlements in time. A validation is not repeated when it is used, and a process goes on
using the one it has cached, so what is granted follows the licence as long as the cached one
is still the tenant's and has not expired. -/

namespace Taroai.Licensing

structure Admits (validation : LicenseValidationResult) (feature : LicensedFeature)
    (requestedAmount : Nat) (now : Time) : Prop where
  deployment : validation.deploymentMode ∈ validation.license.deploymentModes.map DeploymentMode.value
  current : now < validation.license.expiresAt
  entitled : ∃ entitlement ∈ validation.license.entitlements, entitlement.feature = feature ∧
    entitlement.enabled = true ∧ (∀ expiresAt, entitlement.expiresAt = some expiresAt → now < expiresAt) ∧
    ∀ limit, entitlement.limit = some limit → requestedAmount ≤ limit

section Checks

theorem checkEntitlement_allowed {validation : LicenseValidationResult} {feature : LicensedFeature}
    {requestedAmount : Nat} {now : Time}
    (allowed : (checkEntitlement validation feature requestedAmount now).allowed = true) :
    validation.status = .active ∧
      ∃ entitlement ∈ validation.license.entitlements, entitlement.feature = feature ∧
        entitlement.enabled = true ∧
        (∀ expiresAt, entitlement.expiresAt = some expiresAt → now < expiresAt) ∧
        ∀ limit, entitlement.limit = some limit → requestedAmount ≤ limit := by
  unfold checkEntitlement at allowed
  split at allowed
  · cases allowed
  · next active =>
    split at allowed
    · cases allowed
    · next entitlement found =>
      split at allowed
      · cases allowed
      · next enabled =>
        split at allowed
        · cases allowed
        · next unexpired =>
          split at allowed
          · cases allowed
          · next within =>
            have first := List.find?_some found
            refine ⟨not_not.mp active, entitlement, List.mem_of_find?_eq_some found,
              of_decide_eq_true first, (Bool.not_eq_false _).mp enabled,
              fun expiresAt expires => ?_, fun limit limited => ?_⟩
            · rw [expires] at unexpired
              simpa using unexpired
            · rw [limited] at within
              simpa using within

def Made (validation : LicenseValidationResult) : Prop :=
  validation.status = .active →
    validation.deploymentMode ∈ validation.license.deploymentModes.map DeploymentMode.value

theorem validateLicense_made (licenseKey : LicenseKey) (deploymentMode : String) (now : Time)
    (source : Source) : Made (validateLicense licenseKey deploymentMode now source) := by
  unfold Made validateLicense
  dsimp only
  split
  · intro active
    cases active
  · next allowed =>
    split
    · intro active
      cases active
    · exact fun _ => not_not.mp allowed

theorem validateOffline_made (source : Source) (licenseKey : LicenseKey) (deploymentMode : String)
    (now : Time) : Made (validateOffline source licenseKey deploymentMode now) := by
  unfold validateOffline
  split
  · exact validateLicense_made _ _ _ _
  · intro active
    cases active

theorem validate_made (source : Source) (licenseKey : LicenseKey) (deploymentMode : String)
    (now : Time) : Made (validate source licenseKey deploymentMode now) := by
  cases source with
  | document => exact validateLicense_made _ _ _ _
  | offlineFile => exact validateOffline_made _ _ _ _
  | signedOfflineFile => exact validateOffline_made _ _ _ _

end Checks

namespace System

def mostRecent (s : System) (tenantId : String) : Option LicenseValidationResult :=
  (s.activations.filter fun validation => validation.license.tenantId = tenantId).getLast?

/-- The store holds the most recent activation of each tenant, and every validation in use was
made by `validate`. -/
structure Inv (s : System) : Prop where
  stored : ∀ tenantId, s.rows tenantId = s.mostRecent tenantId
  made : ∀ validation ∈ s.validations, Made validation
  activated : ∀ validation ∈ s.activations, Made validation
  cached : ∀ process tenantId validation,
    s.activeValidationByTenant process tenantId = some validation → Made validation

/-- A process that has a validation of the tenant cached has the one activated last. -/
def Current (s : System) (process : Nat) (tenantId : String) : Prop :=
  ∀ validation, s.activeValidationByTenant process tenantId = some validation →
    s.mostRecent tenantId = some validation

/-- What a call that requires an entitlement would have to look at: the validation it uses is
the one activated last, and the licence has not expired when the check passes. -/
def Meets (s : System) : Call → Prop
  | .requireEntitlement process tenantId feature requestedAmount now => s.Current process tenantId ∧
    ∀ validation, s.mostRecent tenantId = some validation →
      (checkEntitlement validation feature requestedAmount now).allowed = true →
      now < validation.license.expiresAt
  | _ => True

/-- With enforcement on, an entitlement is granted only if the licence activated last admits the
request at that time. -/
def Follows (s : System) : Call → Prop
  | .requireEntitlement process tenantId feature requestedAmount now =>
    s.enforcement process = true →
    ∀ decision, (s.requireEntitlement process tenantId feature requestedAmount now).1 = .ok decision →
      ∃ validation, s.mostRecent tenantId = some validation ∧
        Admits validation feature requestedAmount now
  | _ => True

section Steps

variable {s : System}

theorem mostRecent_mem {tenantId : String} {validation : LicenseValidationResult}
    (recent : s.mostRecent tenantId = some validation) : validation ∈ s.activations :=
  List.mem_of_mem_filter (List.mem_of_getLast? recent)

theorem mostRecent_save (validation : LicenseValidationResult) (tenantId : String) :
    (s.save validation).mostRecent tenantId =
      if tenantId = validation.license.tenantId then some validation else s.mostRecent tenantId := by
  unfold mostRecent save
  dsimp only
  rw [List.filter_append]
  by_cases same : tenantId = validation.license.tenantId
  · simp [same]
  · simp [same, Ne.symm same]

theorem Inv.cache {validation : LicenseValidationResult} (inv : s.Inv) (made : Made validation)
    (process : Nat) (tenantId : String) : (s.cache process tenantId validation).Inv where
  stored := inv.stored
  made := inv.made
  activated := inv.activated
  cached other id found present := by
    unfold System.cache at present
    dsimp only at present
    split at present
    · cases present
      exact made
    · exact inv.cached other id found present

theorem Inv.save {validation : LicenseValidationResult} (inv : s.Inv) (made : Made validation) :
    (s.save validation).Inv where
  stored tenantId := by
    rw [mostRecent_save]
    unfold System.save
    dsimp only
    split
    · rfl
    · exact inv.stored tenantId
  made := inv.made
  activated found listed := by
    obtain before | new := List.mem_append.mp listed
    · exact inv.activated found before
    · rw [List.mem_singleton.mp new]
      exact made
  cached := inv.cached

theorem getActiveLicenseValidation_some (inv : s.Inv) {tenantId : String}
    {validation : LicenseValidationResult}
    (found : s.getActiveLicenseValidation tenantId = some validation) :
    s.mostRecent tenantId = some validation := by
  rw [← inv.stored]
  unfold getActiveLicenseValidation at found
  split at found
  · exact found
  · exact (Option.filter_eq_some_iff.mp found).1

theorem getActiveValidation_some (inv : s.Inv) {process : Nat} {tenantId : String}
    {validation : LicenseValidationResult} {s' : System}
    (found : s.getActiveValidation process tenantId = (some validation, s')) :
    Made validation ∧ (s.activeValidationByTenant process tenantId = some validation ∨
      s.mostRecent tenantId = some validation) ∧ s'.Inv := by
  unfold getActiveValidation at found
  split at found
  · next cached held =>
    cases found
    exact ⟨inv.cached _ _ _ held, .inl held, inv⟩
  · split at found
    · next stored present =>
      cases found
      have recent := getActiveLicenseValidation_some inv present
      have made := inv.activated _ (mostRecent_mem recent)
      exact ⟨made, .inr recent, inv.cache made _ _⟩
    · cases found

theorem getActiveValidation_none {process : Nat} {tenantId : String} {s' : System}
    (found : s.getActiveValidation process tenantId = (none, s')) : s' = s := by
  unfold getActiveValidation at found
  split at found
  · cases found
  · split at found
    · cases found
    · cases found
      rfl

theorem requireEntitlement_inv (inv : s.Inv) (process : Nat) (tenantId : String)
    (feature : LicensedFeature) (requestedAmount : Nat) (now : Time) :
    (s.requireEntitlement process tenantId feature requestedAmount now).2.Inv := by
  unfold requireEntitlement
  split
  · exact inv
  · split
    · next s' found =>
      rw [getActiveValidation_none found]
      exact inv
    · next validation s' found =>
      have inv' := (getActiveValidation_some inv found).2.2
      dsimp only
      split
      · exact inv'
      · exact inv'

theorem requireEntitlement_ok (inv : s.Inv) {process : Nat} {tenantId : String}
    {feature : LicensedFeature} {requestedAmount : Nat} {now : Time} {decision : EntitlementDecision}
    (enforced : s.enforcement process = true)
    (granted : (s.requireEntitlement process tenantId feature requestedAmount now).1 = .ok decision) :
    ∃ validation, Made validation ∧
      (s.activeValidationByTenant process tenantId = some validation ∨
        s.mostRecent tenantId = some validation) ∧
      (checkEntitlement validation feature requestedAmount now).allowed = true := by
  unfold requireEntitlement at granted
  rw [if_neg (by rw [enforced]; decide)] at granted
  split at granted
  · cases granted
  · next validation s' found =>
    obtain ⟨made, held, -⟩ := getActiveValidation_some inv found
    dsimp only at granted
    split at granted
    · next allowed => exact ⟨validation, made, held, allowed⟩
    · cases granted

theorem perform_inv (inv : s.Inv) (call : Call) : (s.perform call).Inv := by
  cases call with
  | validate source licenseKey deploymentMode now =>
    refine ⟨inv.stored, fun validation listed => ?_, inv.activated, inv.cached⟩
    obtain before | new := List.mem_append.mp listed
    · exact inv.made validation before
    · rw [List.mem_singleton.mp new]
      exact validate_made _ _ _ _
  | activateValidation process validation =>
    dsimp only [perform]
    split
    · next listed =>
      have made := inv.made validation listed
      exact (inv.cache made _ _).save made
    · exact inv
  | activationRaised process validation =>
    dsimp only [perform]
    split
    · next listed => exact inv.cache (inv.made validation listed) _ _
    · exact inv
  | requireEntitlement process tenantId feature requestedAmount now =>
    exact requireEntitlement_inv inv _ _ _ _ _
  | restart process =>
    refine ⟨inv.stored, inv.made, inv.activated, fun other id validation held => ?_⟩
    dsimp only [perform] at held
    split at held
    · cases held
    · exact inv.cached other id validation held

theorem follows_of_meets (inv : s.Inv) (call : Call) (meets : s.Meets call) : s.Follows call := by
  cases call with
  | requireEntitlement process tenantId feature requestedAmount now =>
    intro enforced decision granted
    obtain ⟨current, unexpired⟩ := meets
    obtain ⟨validation, made, held, allowed⟩ := requireEntitlement_ok inv enforced granted
    have recent : s.mostRecent tenantId = some validation := held.elim (current validation) id
    obtain ⟨active, entitled⟩ := checkEntitlement_allowed allowed
    exact ⟨validation, recent, made active, unexpired validation recent allowed, entitled⟩
  | validate => trivial
  | activateValidation => trivial
  | activationRaised => trivial
  | restart => trivial

end Steps

structure Fresh (s : System) : Prop where
  rows : ∀ tenantId, s.rows tenantId = none
  caches : ∀ process tenantId, s.activeValidationByTenant process tenantId = none
  validations : s.validations = []
  activations : s.activations = []

theorem Fresh.inv {s : System} (fresh : s.Fresh) : s.Inv where
  stored tenantId := by
    unfold mostRecent
    rw [fresh.rows, fresh.activations]
    rfl
  made validation listed := by
    rw [fresh.validations] at listed
    cases listed
  activated validation listed := by
    rw [fresh.activations] at listed
    cases listed
  cached process tenantId validation held := by
    rw [fresh.caches] at held
    cases held

def Always (p : System → Call → Prop) (s : System) : List Call → Prop
  | [] => True
  | call :: rest => p s call ∧ Always p (s.perform call) rest

theorem always_follows {s : System} (inv : s.Inv) (calls : List Call)
    (meets : s.Always Meets calls) : s.Always Follows calls := by
  induction calls generalizing s with
  | nil => trivial
  | cons call rest ih =>
    exact ⟨follows_of_meets inv call meets.1, ih (perform_inv inv call) meets.2⟩

/-- Along every history of validations, activations and restarts, entitlements are granted as
the licence activated last admits them, as long as no call uses an older cached one and none
passes the check after the licence has expired. -/
theorem enforcement_follows_licence (s : System) (fresh : s.Fresh) (calls : List Call)
    (meets : s.Always Meets calls) : s.Always Follows calls :=
  always_follows fresh.inv calls meets

section Expired

def unlicensed : System where
  kind := .sql
  enforcement _ := true
  activeValidationByTenant _ _ := none
  rows _ := none
  validations := []
  activations := []

def brief : LicenseKey where
  id := "licence"
  tenantId := "tenant"
  issuedAt := 0
  expiresAt := 100
  deploymentModes := [.cloud]
  entitlements := [{ feature := .privateConnectorCount, limit := some 2 }]
  offlineValidationAllowed := false
  window := by decide

def imported : List Call :=
  [.validate .document brief "cloud" 10,
    .activateValidation 0 (validate .document brief "cloud" 10)]

/-- One process activates the licence and another one uses it in time. -/
theorem granted_in_time : unlicensed.Always Follows
    (imported ++ [.requireEntitlement 1 "tenant" .privateConnectorCount 2 50]) := by
  refine enforcement_follows_licence _ ⟨fun _ => rfl, fun _ _ => rfl, rfl, rfl⟩ _ ?_
  refine ⟨trivial, trivial, ⟨fun validation held => (by cases held), ?_⟩, trivial⟩
  intro validation recent _
  cases recent
  decide

def replaced : List Call :=
  imported ++ [.validate .document { brief with entitlements := [] } "cloud" 20,
    .activateValidation 1 (validate .document { brief with entitlements := [] } "cloud" 20)]

/-- After its expiry the licence still grants the entitlement, and so does the cached one after
another process has activated a licence without it. -/
theorem granted_after_expiry :
    ¬(imported.foldl perform unlicensed).Follows
        (.requireEntitlement 0 "tenant" .privateConnectorCount 1 100) ∧
      ¬(replaced.foldl perform unlicensed).Follows
        (.requireEntitlement 0 "tenant" .privateConnectorCount 1 50) := by
  constructor
  · intro follows
    obtain ⟨validation, recent, admits⟩ := follows rfl _ rfl
    cases recent
    exact absurd admits.current (by decide)
  · intro follows
    obtain ⟨validation, recent, admits⟩ := follows rfl _ rfl
    cases recent
    obtain ⟨entitlement, listed, -⟩ := admits.entitled
    cases listed

end Expired

end System

end Taroai.Licensing
