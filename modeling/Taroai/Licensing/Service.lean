import Taroai.Clock

/-! `licensing/service.py`. A licence is validated once; the result is activated for its tenant,
which keeps it in the process and in the store that all processes share. Signatures, audit
records and the statuses kept for them are left out. -/

namespace Taroai.Licensing

inductive LicensedFeature where
  | sso
  | scim
  | privateConnectorCount
  | sandboxConcurrency
  | solutionPacks
  | auditRetentionDays
deriving DecidableEq, Repr

def LicensedFeature.value : LicensedFeature → String
  | .sso => "sso"
  | .scim => "scim"
  | .privateConnectorCount => "private_connector_count"
  | .sandboxConcurrency => "sandbox_concurrency"
  | .solutionPacks => "solution_packs"
  | .auditRetentionDays => "audit_retention_days"

inductive LicenseStatus where
  | active
  | expired
  | invalid
deriving DecidableEq, Repr

def LicenseStatus.value : LicenseStatus → String
  | .active => "active"
  | .expired => "expired"
  | .invalid => "invalid"

inductive DeploymentMode where
  | cloud
  | byoc
  | vpc
  | onPremises
  | airGapped
deriving DecidableEq, Repr

def DeploymentMode.value : DeploymentMode → String
  | .cloud => "cloud"
  | .byoc => "byoc"
  | .vpc => "vpc"
  | .onPremises => "private"
  | .airGapped => "air_gapped"

structure Entitlement where
  feature : LicensedFeature
  enabled : Bool := true
  limit : Option Nat := none
  expiresAt : Option Time := none
deriving DecidableEq, Repr

structure LicenseKey where
  id : String
  tenantId : String
  issuedAt : Time
  expiresAt : Time
  deploymentModes : List DeploymentMode
  entitlements : List Entitlement
  offlineValidationAllowed : Bool
  window : issuedAt < expiresAt
deriving DecidableEq

inductive Source where
  | document
  | offlineFile
  | signedOfflineFile
deriving DecidableEq, Repr

structure LicenseValidationResult where
  license : LicenseKey
  status : LicenseStatus
  deploymentMode : String
  source : Source
  reason : String
deriving DecidableEq

structure EntitlementDecision where
  feature : LicensedFeature
  allowed : Bool
  requestedAmount : Nat
  limit : Option Nat := none
  reason : String := ""
deriving DecidableEq, Repr

/-- `LicenseEntitlementDeniedError`. -/
structure EntitlementDenied where
  message : String
  licenseId : Option String := none
  limit : Option Nat := none
deriving DecidableEq, Repr

def validateLicense (licenseKey : LicenseKey) (deploymentMode : String) (now : Time)
    (source : Source) : LicenseValidationResult :=
  let result (status : LicenseStatus) (reason : String) : LicenseValidationResult :=
    ⟨licenseKey, status, deploymentMode, source, reason⟩
  if deploymentMode ∉ licenseKey.deploymentModes.map DeploymentMode.value then
    result .invalid ("license does not allow " ++ deploymentMode ++ " deployment")
  else if now ≥ licenseKey.expiresAt then result .expired "license expired"
  else result .active ""

/-- `validate_offline_file` and `validate_signed_offline_license_key` differ in the source. -/
def validateOffline (source : Source) (licenseKey : LicenseKey) (deploymentMode : String)
    (now : Time) : LicenseValidationResult :=
  if licenseKey.offlineValidationAllowed then validateLicense licenseKey deploymentMode now source
  else ⟨licenseKey, .invalid, deploymentMode, source, "license does not allow offline validation"⟩

def validate (source : Source) (licenseKey : LicenseKey) (deploymentMode : String) (now : Time) :
    LicenseValidationResult :=
  match source with
  | .document => validateLicense licenseKey deploymentMode now .document
  | .offlineFile => validateOffline .offlineFile licenseKey deploymentMode now
  | .signedOfflineFile => validateOffline .signedOfflineFile licenseKey deploymentMode now

def findEntitlement (entitlements : List Entitlement) (feature : LicensedFeature) :
    Option Entitlement :=
  entitlements.find? fun entitlement => entitlement.feature = feature

def checkEntitlement (validation : LicenseValidationResult) (feature : LicensedFeature)
    (requestedAmount : Nat) (now : Time) : EntitlementDecision :=
  if validation.status ≠ .active then
    { feature := feature
      allowed := false
      requestedAmount := requestedAmount
      reason := "license status is " ++ validation.status.value }
  else
    match findEntitlement validation.license.entitlements feature with
    | none =>
      { feature := feature
        allowed := false
        requestedAmount := requestedAmount
        reason := "missing entitlement for " ++ feature.value }
    | some entitlement =>
      if entitlement.enabled = false then
        { feature := feature
          allowed := false
          requestedAmount := requestedAmount
          reason := "missing entitlement for " ++ feature.value }
      else if entitlement.expiresAt.any fun expiresAt => now ≥ expiresAt then
        { feature := feature
          allowed := false
          requestedAmount := requestedAmount
          limit := entitlement.limit
          reason := feature.value ++ " entitlement expired" }
      else if entitlement.limit.any fun limit => requestedAmount > limit then
        { feature := feature
          allowed := false
          requestedAmount := requestedAmount
          limit := entitlement.limit
          reason := feature.value ++ " entitlement limit exceeded" }
      else
        { feature := feature
          allowed := true
          requestedAmount := requestedAmount
          limit := entitlement.limit }

/-- `get_active_license_validation`: the SQL store asks for a row whose status is active. -/
inductive StoreKind where
  | inMemory
  | sql
deriving DecidableEq, Repr

/-- The processes, by number, with what each has cached, and the store they share. The results
of `validate` that a caller may activate are kept, and every activation is recorded. -/
structure System where
  kind : StoreKind
  enforcement : Nat → Bool
  activeValidationByTenant : Nat → String → Option LicenseValidationResult
  rows : String → Option LicenseValidationResult
  validations : List LicenseValidationResult
  activations : List LicenseValidationResult

namespace System

variable (s : System)

def getActiveLicenseValidation (tenantId : String) : Option LicenseValidationResult :=
  match s.kind with
  | .inMemory => s.rows tenantId
  | .sql => (s.rows tenantId).filter fun validation => validation.status = .active

def cache (process : Nat) (tenantId : String) (validation : LicenseValidationResult) : System :=
  { s with activeValidationByTenant := fun other id =>
      if other = process ∧ id = tenantId then some validation else s.activeValidationByTenant other id }

def save (validation : LicenseValidationResult) : System :=
  { s with
    rows := fun id => if id = validation.license.tenantId then some validation else s.rows id
    activations := s.activations ++ [validation] }

def activateValidation (process : Nat) (validation : LicenseValidationResult) : System :=
  (s.cache process validation.license.tenantId validation).save validation

def getActiveValidation (process : Nat) (tenantId : String) : Option LicenseValidationResult × System :=
  match s.activeValidationByTenant process tenantId with
  | some validation => (some validation, s)
  | none =>
    match s.getActiveLicenseValidation tenantId with
    | some validation => (some validation, s.cache process tenantId validation)
    | none => (none, s)

def requireEntitlement (process : Nat) (tenantId : String) (feature : LicensedFeature)
    (requestedAmount : Nat) (now : Time) : Except EntitlementDenied EntitlementDecision × System :=
  if s.enforcement process = false then
    (.ok
      { feature := feature
        allowed := true
        requestedAmount := requestedAmount
        reason := "license runtime enforcement disabled" }, s)
  else
    match s.getActiveValidation process tenantId with
    | (none, s') => (.error { message := "active license is required for " ++ feature.value }, s')
    | (some validation, s') =>
      let decision := checkEntitlement validation feature requestedAmount now
      if decision.allowed then (.ok decision, s')
      else (.error
        { message := if decision.reason = "" then "license entitlement denied for " ++ feature.value
            else decision.reason
          licenseId := some validation.license.id
          limit := decision.limit }, s')

end System

/-- An activation whose write to the store raises leaves the cache changed. A process that is
started again has an empty cache. -/
inductive Call where
  | validate (source : Source) (licenseKey : LicenseKey) (deploymentMode : String) (now : Time)
  | activateValidation (process : Nat) (validation : LicenseValidationResult)
  | activationRaised (process : Nat) (validation : LicenseValidationResult)
  | requireEntitlement (process : Nat) (tenantId : String) (feature : LicensedFeature)
    (requestedAmount : Nat) (now : Time)
  | restart (process : Nat)

def System.perform (s : System) : Call → System
  | .validate source licenseKey deploymentMode now =>
    { s with validations :=
        s.validations ++ [Licensing.validate source licenseKey deploymentMode now] }
  | .activateValidation process validation =>
    if validation ∈ s.validations then s.activateValidation process validation else s
  | .activationRaised process validation =>
    if validation ∈ s.validations then s.cache process validation.license.tenantId validation else s
  | .requireEntitlement process tenantId feature requestedAmount now =>
    (s.requireEntitlement process tenantId feature requestedAmount now).2
  | .restart process =>
    { s with activeValidationByTenant := fun other id =>
        if other = process then none else s.activeValidationByTenant other id }

end Taroai.Licensing
