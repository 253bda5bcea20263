import Mathlib.Algebra.Order.Ring.Rat
import Taroai.Clock
import Taroai.Lib.Ranked
import Taroai.Lib.Table

/-! The skill registry in memory: manifests by version, packages, evaluation runs and the
installations of workspaces. Scores are exact. What `load_evaluation_suite` makes of a package's
files comes with the package, and a suite stands for its digest. -/

namespace Taroai.Skills

inductive SkillStatus where
  | draft
  | published
  | disabled
deriving DecidableEq, Repr

inductive SkillInstallationStatus where
  | enabled
  | disabled
deriving DecidableEq, Repr

inductive SkillVisibility where
  | tenant
  | department
  | workspace
  | private_
deriving DecidableEq, Repr

inductive SkillPackageKind where
  | package
  | legacyManifest
deriving DecidableEq, Repr

inductive SkillEvaluationStatus where
  | running
  | passed
  | failed
  | error
deriving DecidableEq, Repr

inductive SkillError where
  | notFound (message : String)
  | value (message : String)
deriving DecidableEq, Repr

structure SkillManifest where
  id : String
  version : String
  visibility : SkillVisibility := .tenant
  visibleToDepartmentIds : List String := []
  visibleToWorkspaceIds : List String := []
  visibleToUserIds : List String := []
  /-- The fields that are only compared. -/
  description : String := ""
deriving DecidableEq, Repr

structure SkillEvaluationSuite where
  suiteDigest : String
  minimumScore : ℚ := 17 / 20
deriving DecidableEq

structure SkillDependency where
  id : String
  version : String
  packageDigest : Option String
deriving DecidableEq, Repr

structure SkillPackage where
  manifest : SkillManifest
  packageDigest : String
  sourceDigest : String
  resolvedDependencies : List SkillDependency := []
  /-- `load_evaluation_suite`: no suite, a suite, or one that cannot be read. -/
  evaluationSuite : Except String (Option SkillEvaluationSuite) := .ok none

def SkillPackage.skillId (package : SkillPackage) : String := package.manifest.id

def SkillPackage.version (package : SkillPackage) : String := package.manifest.version

structure SkillEvaluationRun where
  id : String
  tenantId : String
  skillId : String
  version : String
  packageDigest : String
  suiteDigest : String
  status : SkillEvaluationStatus
  minimumScore : ℚ
  score : Option ℚ
  passed : Option Bool
  sideEffectViolations : List String := []
  createdAt : Time
deriving DecidableEq

structure SkillRegistryEntry where
  tenantId : String
  manifest : SkillManifest
  status : SkillStatus := .draft
  createdByUserId : String
deriving DecidableEq, Repr

def SkillRegistryEntry.key (entry : SkillRegistryEntry) : String × String :=
  (entry.tenantId, entry.manifest.id)

structure SkillPackageRecord where
  tenantId : String
  package : SkillPackage
  status : SkillStatus := .draft
  createdByUserId : String

def SkillPackageRecord.key (record : SkillPackageRecord) : String × String × String :=
  (record.tenantId, record.package.skillId, record.package.version)

structure SkillInstallation where
  tenantId : String
  workspaceId : String
  skillId : String
  status : SkillInstallationStatus := .enabled
  installedByUserId : String
  installedVersion : Option String := none
  packageDigest : Option String := none
  sourceDigest : Option String := none
  resolvedDependencies : List SkillDependency := []
  packageKind : SkillPackageKind := .legacyManifest
deriving DecidableEq, Repr

def SkillInstallation.key (installation : SkillInstallation) : String × String × String :=
  (installation.tenantId, installation.workspaceId, installation.skillId)

def isSkillEntryVisible (entry : SkillRegistryEntry) (userId : String)
    (workspaceId departmentId : Option String) : Bool :=
  match entry.manifest.visibility with
  | .tenant => true
  | .department => departmentId.any fun id => id ∈ entry.manifest.visibleToDepartmentIds
  | .workspace => workspaceId.any fun id => id ∈ entry.manifest.visibleToWorkspaceIds
  | .private_ => userId = entry.createdByUserId || userId ∈ entry.manifest.visibleToUserIds

structure InMemorySkillRegistry where
  entries : Table SkillRegistryEntry.key := .empty
  versionEntries : List SkillRegistryEntry := []
  packages : Table SkillPackageRecord.key := .empty
  evaluationRuns : Table SkillEvaluationRun.id := .empty
  installations : Table SkillInstallation.key := .empty

namespace InMemorySkillRegistry

variable (registry : InMemorySkillRegistry)

section Manifests

def listVersions (tenantId skillId : String) : List SkillRegistryEntry :=
  registry.versionEntries.filter fun entry => entry.key = (tenantId, skillId)

def registerForTenant (tenantId createdByUserId : String) (manifest : SkillManifest) :
    Except SkillError InMemorySkillRegistry :=
  if (registry.listVersions tenantId manifest.id).any
      fun entry => entry.manifest.version = manifest.version then
    .error (.value s!"Skill already exists: {manifest.id}@{manifest.version}")
  else
    let entry := { tenantId := tenantId, manifest := manifest, createdByUserId := createdByUserId }
    .ok { registry with
      entries := registry.entries.put entry
      versionEntries := registry.versionEntries ++ [entry] }

def getForTenant (tenantId skillId : String) : Except SkillError SkillRegistryEntry :=
  match registry.entries.get? (tenantId, skillId) with
  | none => .error (.notFound s!"Skill not found: {skillId}")
  | some entry => .ok entry

def updateStatus (tenantId skillId : String) (status : SkillStatus) :
    Except SkillError InMemorySkillRegistry :=
  match registry.getForTenant tenantId skillId with
  | .error raised => .error raised
  | .ok entry => .ok { registry with entries := registry.entries.put { entry with status := status } }

end Manifests

section Packages

/-- `register_package_for_tenant` -/
def registerPackageForTenant (tenantId createdByUserId : String) (package : SkillPackage) :
    Except SkillError InMemorySkillRegistry :=
  match registry.packages.get? (tenantId, package.skillId, package.version) with
  | some _ =>
    .error (.value s!"Skill package already exists: {package.skillId}@{package.version}")
  | none =>
    let record :=
      { tenantId := tenantId, package := package, createdByUserId := createdByUserId }
    match (registry.listVersions tenantId package.skillId).find?
        fun entry => entry.manifest.version = package.version with
    | none =>
      match registry.registerForTenant tenantId createdByUserId package.manifest with
      | .error raised => .error raised
      | .ok registry => .ok { registry with packages := registry.packages.put record }
    | some entry =>
      if entry.manifest ≠ package.manifest then
        .error (.value "immutable skill version already has a different manifest")
      else .ok { registry with packages := registry.packages.put record }

def getPackageRecord (tenantId skillId version : String) : Except SkillError SkillPackageRecord :=
  match registry.packages.get? (tenantId, skillId, version) with
  | none => .error (.notFound s!"Skill package not found: {skillId}@{version}")
  | some record => .ok record

def getPackageVersion (tenantId skillId version : String) : Except SkillError SkillPackage :=
  (registry.getPackageRecord tenantId skillId version).map SkillPackageRecord.package

def withStatus (tenantId skillId version : String) (status : SkillStatus)
    (entry : SkillRegistryEntry) : SkillRegistryEntry :=
  if entry.key = (tenantId, skillId) ∧ entry.manifest.version = version then
    { entry with status := status }
  else entry

/-- `_update_package_status`: the record, its version entry, and the current entry of the skill
when it is of this version. -/
def updatePackageStatus (tenantId skillId version : String) (status : SkillStatus) :
    Except SkillError InMemorySkillRegistry :=
  match registry.getPackageRecord tenantId skillId version with
  | .error raised => .error raised
  | .ok record => .ok { registry with
      packages := registry.packages.put { record with status := status }
      versionEntries := registry.versionEntries.map (withStatus tenantId skillId version status)
      entries := registry.entries.map (withStatus tenantId skillId version status) fun entry => by
        unfold withStatus
        split <;> rfl }

def publishPackage (tenantId skillId version : String) : Except SkillError InMemorySkillRegistry :=
  registry.updatePackageStatus tenantId skillId version .published

def disablePackage (tenantId skillId version : String) : Except SkillError InMemorySkillRegistry :=
  registry.updatePackageStatus tenantId skillId version .disabled

/-- The status of a skill as a whole: that of the package of its current version when there is one. -/
def updateCurrent (tenantId skillId : String) (status : SkillStatus) :
    Except SkillError InMemorySkillRegistry :=
  match registry.getForTenant tenantId skillId with
  | .error raised => .error raised
  | .ok current =>
    match registry.packages.get? (tenantId, skillId, current.manifest.version) with
    | some _ => registry.updatePackageStatus tenantId skillId current.manifest.version status
    | none => registry.updateStatus tenantId skillId status

def publish (tenantId skillId : String) : Except SkillError InMemorySkillRegistry :=
  registry.updateCurrent tenantId skillId .published

def disable (tenantId skillId : String) : Except SkillError InMemorySkillRegistry :=
  registry.updateCurrent tenantId skillId .disabled

end Packages

section Runs

def recordEvaluationRun (run : SkillEvaluationRun) : Except SkillError InMemorySkillRegistry :=
  match registry.evaluationRuns.get? run.id with
  | some _ => .error (.value s!"Skill evaluation run already exists: {run.id}")
  | none =>
    match registry.getPackageVersion run.tenantId run.skillId run.version with
    | .error raised => .error raised
    | .ok package =>
      if package.packageDigest ≠ run.packageDigest then
        .error (.value "evaluation run package digest does not match immutable package")
      else .ok { registry with evaluationRuns := registry.evaluationRuns.put run }

def listEvaluationRuns (tenantId skillId version : String) : List SkillEvaluationRun :=
  Ranked.orderBy SkillEvaluationRun.createdAt (registry.evaluationRuns.entries.filter fun run =>
    run.tenantId = tenantId ∧ run.skillId = skillId ∧ run.version = version)

def latestEvaluationRun (tenantId skillId version : String) :
    Except SkillError SkillEvaluationRun :=
  match (registry.listEvaluationRuns tenantId skillId version).getLast? with
  | none => .error (.notFound s!"Skill evaluation run not found: {skillId}@{version}")
  | some run => .ok run

end Runs

section Installations

/-- The pin that `_install_package_version` stores. -/
def pinned (workspaceId installedByUserId : String) (record : SkillPackageRecord) :
    SkillInstallation where
  tenantId := record.tenantId
  workspaceId := workspaceId
  skillId := record.package.skillId
  status := .enabled
  installedByUserId := installedByUserId
  installedVersion := some record.package.version
  packageDigest := some record.package.packageDigest
  sourceDigest := some record.package.sourceDigest
  resolvedDependencies := record.package.resolvedDependencies
  packageKind := .package

/-- `version or entry.manifest.version` -/
def targetVersion (version : Option String) (entry : SkillRegistryEntry) : String :=
  (version.filter fun version => version ≠ "").getD entry.manifest.version

def legacyPin (workspaceId installedByUserId : String) (entry : SkillRegistryEntry) :
    SkillInstallation where
  tenantId := entry.tenantId
  workspaceId := workspaceId
  skillId := entry.manifest.id
  installedByUserId := installedByUserId
  installedVersion := some entry.manifest.version

def installForWorkspace (tenantId workspaceId skillId installedByUserId : String)
    (version packageDigest : Option String) : Except SkillError InMemorySkillRegistry :=
  match registry.getForTenant tenantId skillId with
  | .error raised => .error raised
  | .ok entry =>
    let target := targetVersion version entry
    match registry.packages.get? (tenantId, skillId, target) with
    | some record =>
      if record.status ≠ .published then
        .error (.value s!"Skill package is not published: {skillId}@{target}")
      else if packageDigest.any fun digest => record.package.packageDigest ≠ digest then
        .error (.value "requested package digest does not match published package")
      else .ok { registry with
        installations := registry.installations.put (pinned workspaceId installedByUserId record) }
    | none =>
      if version.isSome ∨ packageDigest.isSome then
        .error (.notFound s!"Skill package not found: {skillId}@{target}")
      else if entry.status ≠ .published then .error (.value s!"Skill is not published: {skillId}")
      else .ok { registry with
        installations := registry.installations.put (legacyPin workspaceId installedByUserId entry) }

def getInstallation (tenantId workspaceId skillId : String) : Except SkillError SkillInstallation :=
  match registry.installations.get? (tenantId, workspaceId, skillId) with
  | none => .error (.notFound s!"Skill installation not found: {skillId}")
  | some installation => .ok installation

def upgradeForWorkspace (tenantId workspaceId skillId version updatedByUserId : String)
    (expectedPackageDigest : Option String) : Except SkillError InMemorySkillRegistry :=
  match registry.getInstallation tenantId workspaceId skillId with
  | .error raised => .error raised
  | .ok current =>
    if expectedPackageDigest.any fun digest => current.packageDigest ≠ some digest then
      .error (.value "workspace skill installation changed before upgrade")
    else
      match registry.getPackageRecord tenantId skillId version with
      | .error raised => .error raised
      | .ok record =>
        if record.status ≠ .published then
          .error (.value s!"Skill package is not published: {skillId}@{version}")
        else .ok { registry with
          installations := registry.installations.put (pinned workspaceId updatedByUserId record) }

/-- `_resolve_complete_package_pin` -/
def resolveCompletePackagePin (installation : SkillInstallation) : Except SkillError SkillPackage :=
  if installation.status ≠ .enabled then .error (.value "skill installation is disabled")
  else if installation.packageKind ≠ .package then
    .error (.value "legacy manifest skills are excluded from automatic discovery")
  else
    match installation.installedVersion, installation.packageDigest, installation.sourceDigest with
    | some version, some packageDigest, some sourceDigest =>
      match registry.getPackageRecord installation.tenantId installation.skillId version with
      | .error raised => .error raised
      | .ok record =>
        if record.status ≠ .published then
          .error (.value "installed skill package is not published")
        else if record.package.packageDigest ≠ packageDigest then
          .error (.value "installed skill package digest does not match registry")
        else if record.package.sourceDigest ≠ sourceDigest then
          .error (.value "installed skill source digest does not match registry")
        else if installation.resolvedDependencies ≠ record.package.resolvedDependencies then
          .error (.value "installed skill dependency pins do not match registry")
        else .ok record.package
    | _, _, _ => .error (.value "skill installation does not contain a complete package pin")

def getInstalledPackage (tenantId workspaceId skillId : String) : Except SkillError SkillPackage :=
  match registry.getInstallation tenantId workspaceId skillId with
  | .error raised => .error raised
  | .ok installation => registry.resolveCompletePackagePin installation

def listForWorkspace (tenantId workspaceId : String) : List SkillInstallation :=
  registry.installations.entries.filter fun installation =>
    installation.tenantId = tenantId ∧ installation.workspaceId = workspaceId

/-- What the loop of `list_discoverable_packages` appends for an installation. -/
def discovered (tenantId workspaceId userId : String) (departmentId : Option String)
    (installation : SkillInstallation) : Option SkillPackage :=
  if installation.status ≠ .enabled then none
  else
    match registry.resolveCompletePackagePin installation with
    | .error _ => none
    | .ok package =>
      match registry.getPackageRecord tenantId package.skillId package.version with
      | .error _ => none
      | .ok record =>
        let entry :=
          { tenantId := tenantId
            manifest := package.manifest
            status := record.status
            createdByUserId := record.createdByUserId }
        if isSkillEntryVisible entry userId (some workspaceId) departmentId then some package
        else none

def listDiscoverablePackages (tenantId workspaceId userId : String) (departmentId : Option String) :
    List SkillPackage :=
  (registry.listForWorkspace tenantId workspaceId).filterMap
    (registry.discovered tenantId workspaceId userId departmentId)

end Installations

end InMemorySkillRegistry

end Taroai.Skills
