import Taroai.Skills.Registry

/-! `SkillService.evaluate` and `publish` with the gate of `skills/evaluation.py`. What an executor
makes of the cases of a suite comes with the call. -/

namespace Taroai.Skills

/-- What the cases of a suite came to: the weighted score, whether a critical case failed, and the
side-effect violations. -/
structure Verdict where
  weightedScore : ℚ
  criticalFailed : Bool
  violations : List String
deriving DecidableEq

structure RunMark where
  id : String
  createdAt : Time
deriving DecidableEq, Repr

/-- `SkillEvaluationRunner.run` -/
def runSuite (tenantId : String) (package : SkillPackage) (suite : SkillEvaluationSuite)
    (verdict : Verdict) (mark : RunMark) : SkillEvaluationRun :=
  let passed := suite.minimumScore ≤ verdict.weightedScore && !verdict.criticalFailed &&
    verdict.violations.isEmpty
  { id := mark.id
    tenantId := tenantId
    skillId := package.skillId
    version := package.version
    packageDigest := package.packageDigest
    suiteDigest := suite.suiteDigest
    status := if passed then .passed else .failed
    minimumScore := suite.minimumScore
    score := some verdict.weightedScore
    passed := some passed
    sideEffectViolations := verdict.violations
    createdAt := mark.createdAt }

def validationRun (tenantId : String) (package : SkillPackage) (mark : RunMark) :
    SkillEvaluationRun where
  id := mark.id
  tenantId := tenantId
  skillId := package.skillId
  version := package.version
  packageDigest := package.packageDigest
  suiteDigest := package.packageDigest
  status := .passed
  minimumScore := 1
  score := some 1
  passed := some true
  createdAt := mark.createdAt

/-- `assert_publishable`: the first objection of the gate. -/
def assertPublishable (package : SkillPackage) (run : SkillEvaluationRun) : Option SkillError :=
  if run.skillId ≠ package.skillId then
    some (.value "evaluation run skill does not match package")
  else if run.version ≠ package.version then
    some (.value "evaluation run version does not match package")
  else if run.packageDigest ≠ package.packageDigest then
    some (.value "evaluation run package digest does not match package")
  else if run.status ≠ .passed then some (.value "skill evaluation did not pass")
  else if run.passed ≠ some true then some (.value "skill evaluation gate is not satisfied")
  else if run.score.all fun score => score < run.minimumScore then
    some (.value "skill evaluation score is below the minimum")
  else if run.sideEffectViolations ≠ [] then
    some (.value "skill evaluation contains side-effect violations")
  else none

namespace InMemorySkillRegistry

variable (registry : InMemorySkillRegistry)

/-- `SkillService.evaluate`. Without an executor no suite can be run. -/
def evaluate (tenantId skillId version : String) (suite : Option SkillEvaluationSuite)
    (executor : Option Verdict) (mark : RunMark) : Except SkillError InMemorySkillRegistry :=
  match registry.getPackageVersion tenantId skillId version with
  | .error raised => .error raised
  | .ok package =>
    match suite.elim package.evaluationSuite (fun given => .ok (some given)), executor with
    | .error message, _ => .error (.value message)
    | .ok none, _ => registry.recordEvaluationRun (validationRun tenantId package mark)
    | .ok (some _), none => .error (.value "skill evaluation runner is not configured")
    | .ok (some suite), some verdict =>
      registry.recordEvaluationRun (runSuite tenantId package suite verdict mark)

/-- The run that `SkillService.publish` puts to the gate. -/
def evaluationRunOf (tenantId skillId version : String) (evaluationRunId : Option String) :
    Except SkillError SkillEvaluationRun :=
  match evaluationRunId with
  | none => registry.latestEvaluationRun tenantId skillId version
  | some id =>
    match (registry.listEvaluationRuns tenantId skillId version).find? fun run => run.id = id with
    | none => .error (.value s!"skill evaluation run not found: {id}")
    | some run => .ok run

/-- `SkillService.publish` -/
def publishEvaluated (tenantId skillId version : String) (evaluationRunId : Option String) :
    Except SkillError InMemorySkillRegistry :=
  match registry.getPackageVersion tenantId skillId version with
  | .error raised => .error raised
  | .ok package =>
    match registry.evaluationRunOf tenantId skillId version evaluationRunId with
    | .error raised => .error raised
    | .ok run =>
      match assertPublishable package run with
      | some raised => .error raised
      | none => registry.publishPackage tenantId skillId version

end InMemorySkillRegistry

inductive Call where
  | registerForTenant (tenantId createdByUserId : String) (manifest : SkillManifest)
  | registerPackage (tenantId createdByUserId : String) (package : SkillPackage)
  | evaluate (tenantId skillId version : String) (suite : Option SkillEvaluationSuite)
      (executor : Option Verdict) (mark : RunMark)
  | publishEvaluated (tenantId skillId version : String) (evaluationRunId : Option String)
  | publishPackage (tenantId skillId version : String)
  | publish (tenantId skillId : String)
  | disablePackage (tenantId skillId version : String)
  | disable (tenantId skillId : String)
  | installForWorkspace (tenantId workspaceId skillId installedByUserId : String)
      (version packageDigest : Option String)

namespace InMemorySkillRegistry

def attempt (registry : InMemorySkillRegistry) : Call → Except SkillError InMemorySkillRegistry
  | .registerForTenant tenantId user manifest => registry.registerForTenant tenantId user manifest
  | .registerPackage tenantId user package => registry.registerPackageForTenant tenantId user package
  | .evaluate tenantId skillId version suite executor mark =>
    registry.evaluate tenantId skillId version suite executor mark
  | .publishEvaluated tenantId skillId version run =>
    registry.publishEvaluated tenantId skillId version run
  | .publishPackage tenantId skillId version => registry.publishPackage tenantId skillId version
  | .publish tenantId skillId => registry.publish tenantId skillId
  | .disablePackage tenantId skillId version => registry.disablePackage tenantId skillId version
  | .disable tenantId skillId => registry.disable tenantId skillId
  | .installForWorkspace tenantId workspaceId skillId user version packageDigest =>
    registry.installForWorkspace tenantId workspaceId skillId user version packageDigest

def perform (registry : InMemorySkillRegistry) (call : Call) : InMemorySkillRegistry :=
  (registry.attempt call).toOption.getD registry

end InMemorySkillRegistry

end Taroai.Skills
