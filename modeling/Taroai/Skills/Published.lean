import Taroai.Lib.Machine
import Taroai.Skills.Service

/-! Published packages and their evaluations. The gate of the service asks for a run that passed;
the registry publishes without asking, and the gate does not ask which suite was run. -/

namespace Taroai.Skills

open Machine (Along Conforms)

def MadeWithOwn (run : SkillEvaluationRun) (package : SkillPackage) : Prop :=
  match package.evaluationSuite with
  | .ok none => True
  | .ok (some suite) => run.suiteDigest = suite.suiteDigest
  | .error _ => False

instance (run : SkillEvaluationRun) (package : SkillPackage) : Decidable (MadeWithOwn run package) := by
  unfold MadeWithOwn
  split <;> infer_instance

structure Certifies (run : SkillEvaluationRun) (record : SkillPackageRecord) : Prop where
  key : (run.tenantId, run.skillId, run.version) = record.key
  digest : run.packageDigest = record.package.packageDigest
  passed : run.status = .passed ∧ run.passed = some true
  own : MadeWithOwn run record.package

instance (run : SkillEvaluationRun) (record : SkillPackageRecord) : Decidable (Certifies run record) :=
  decidable_of_iff ((run.tenantId, run.skillId, run.version) = record.key ∧
      run.packageDigest = record.package.packageDigest ∧
      (run.status = .passed ∧ run.passed = some true) ∧ MadeWithOwn run record.package)
    ⟨fun ⟨a, b, c, d⟩ => ⟨a, b, c, d⟩, fun ⟨a, b, c, d⟩ => ⟨a, b, c, d⟩⟩

namespace InMemorySkillRegistry

variable (registry : InMemorySkillRegistry)

def Certified (record : SkillPackageRecord) : Prop :=
  ∃ run ∈ registry.evaluationRuns.entries, Certifies run record

instance (record : SkillPackageRecord) : Decidable (registry.Certified record) :=
  inferInstanceAs (Decidable (∃ run ∈ registry.evaluationRuns.entries, _))

def PublishedCertified : Prop :=
  ∀ record ∈ registry.packages.entries, record.status = .published → registry.Certified record

instance : Decidable registry.PublishedCertified :=
  inferInstanceAs (Decidable (∀ record ∈ registry.packages.entries, _ → _))

def Publishes (record : SkillPackageRecord) : Call → Prop
  | .publishEvaluated tenantId skillId version evaluationRunId =>
    registry.packages.get? (tenantId, skillId, version) = some record ∧
      ∃ run, registry.evaluationRunOf tenantId skillId version evaluationRunId = .ok run ∧
        assertPublishable record.package run = none
  | .publishPackage tenantId skillId version =>
    registry.packages.get? (tenantId, skillId, version) = some record
  | .publish tenantId skillId => ∃ current, registry.entries.get? (tenantId, skillId) = some current ∧
      registry.packages.get? (tenantId, skillId, current.manifest.version) = some record
  | _ => False

/-- Whenever a package version is published, a run that certifies it is recorded. -/
def PublishesCertified (call : Call) : Prop :=
  ∀ record, registry.Publishes record call → registry.Certified record

/-- Packages are published through the service only, and a suite given for the evaluation of a
package that ships one is that one. -/
def Gated : Call → Prop
  | .publishPackage _ _ _ => False
  | .publish tenantId skillId => ∀ current, registry.entries.get? (tenantId, skillId) = some current →
      registry.packages.get? (tenantId, skillId, current.manifest.version) = none
  | .evaluate tenantId skillId version (some suite) _ _ => ∀ record,
      registry.packages.get? (tenantId, skillId, version) = some record →
      match record.package.evaluationSuite with
      | .ok none => True
      | .ok (some own) => suite.suiteDigest = own.suiteDigest
      | .error _ => False
  | _ => True

inductive Changes (registry : InMemorySkillRegistry) (call : Call) (later : InMemorySkillRegistry) :
    Prop where
  | none (packages : later.packages = registry.packages)
      (runs : later.evaluationRuns = registry.evaluationRuns)
      (publishes : ∀ record, ¬registry.Publishes record call)
  | status (record : SkillPackageRecord) (status : SkillStatus)
      (found : registry.packages.get? record.key = some record)
      (packages : later.packages = registry.packages.put { record with status := status })
      (runs : later.evaluationRuns = registry.evaluationRuns)
      (publishes : if status = .published then ∀ r, registry.Publishes r call ↔ r = record
        else ∀ r, ¬registry.Publishes r call)
  | register (record : SkillPackageRecord) (draft : record.status = .draft)
      (absent : registry.packages.get? record.key = .none)
      (packages : later.packages = registry.packages.put record)
      (runs : later.evaluationRuns = registry.evaluationRuns)
      (publishes : ∀ record, ¬registry.Publishes record call)
  | run (run : SkillEvaluationRun) (record : SkillPackageRecord)
      (absent : registry.evaluationRuns.get? run.id = .none)
      (found : registry.packages.get? (run.tenantId, run.skillId, run.version) = some record)
      (own : registry.Gated call → MadeWithOwn run record.package)
      (packages : later.packages = registry.packages)
      (runs : later.evaluationRuns = registry.evaluationRuns.put run)
      (publishes : ∀ record, ¬registry.Publishes record call)

section Changes

variable {registry}

theorem getPackageRecord_eq_ok {tenantId skillId version : String} {record : SkillPackageRecord} :
    registry.getPackageRecord tenantId skillId version = .ok record ↔
      registry.packages.get? (tenantId, skillId, version) = some record := by
  unfold getPackageRecord
  cases registry.packages.get? (tenantId, skillId, version) <;> simp

theorem getPackageVersion_eq_ok {tenantId skillId version : String} {package : SkillPackage} :
    registry.getPackageVersion tenantId skillId version = .ok package ↔
      ∃ record, registry.packages.get? (tenantId, skillId, version) = some record ∧
        record.package = package := by
  unfold getPackageVersion getPackageRecord
  cases registry.packages.get? (tenantId, skillId, version) <;> simp [Except.map]

theorem updatePackageStatus_packages {tenantId skillId version : String} {status : SkillStatus}
    {later : InMemorySkillRegistry}
    (ok : registry.updatePackageStatus tenantId skillId version status = .ok later) :
    ∃ record, registry.packages.get? (tenantId, skillId, version) = some record ∧
      later.packages = registry.packages.put { record with status := status } ∧
      later.evaluationRuns = registry.evaluationRuns := by
  unfold updatePackageStatus at ok
  split at ok
  · cases ok
  · next record found =>
    cases ok
    exact ⟨record, getPackageRecord_eq_ok.mp found, rfl, rfl⟩

theorem updateStatus_packages {tenantId skillId : String} {status : SkillStatus}
    {later : InMemorySkillRegistry} (ok : registry.updateStatus tenantId skillId status = .ok later) :
    later.packages = registry.packages ∧ later.evaluationRuns = registry.evaluationRuns := by
  unfold updateStatus at ok
  split at ok <;> cases ok
  exact ⟨rfl, rfl⟩

theorem updateCurrent_packages {tenantId skillId : String} {status : SkillStatus}
    {later : InMemorySkillRegistry} (ok : registry.updateCurrent tenantId skillId status = .ok later) :
    ∃ current, registry.entries.get? (tenantId, skillId) = some current ∧
      later.evaluationRuns = registry.evaluationRuns ∧
      match registry.packages.get? (tenantId, skillId, current.manifest.version) with
      | none => later.packages = registry.packages
      | some record => later.packages = registry.packages.put { record with status := status } := by
  unfold updateCurrent getForTenant at ok
  cases current : registry.entries.get? (tenantId, skillId) with
  | none => simp [current] at ok
  | some entry =>
    simp only [current] at ok
    refine ⟨entry, rfl, ?_⟩
    cases found : registry.packages.get? (tenantId, skillId, entry.manifest.version) with
    | none =>
      simp only [found] at ok
      exact (updateStatus_packages ok).symm
    | some record =>
      simp only [found] at ok
      obtain ⟨same, found', packages, runs⟩ := updatePackageStatus_packages ok
      rw [found] at found'
      cases found'
      exact ⟨runs, packages⟩

theorem recordEvaluationRun_eq_ok {run : SkillEvaluationRun} {later : InMemorySkillRegistry}
    (ok : registry.recordEvaluationRun run = .ok later) :
    registry.evaluationRuns.get? run.id = .none ∧ later.packages = registry.packages ∧
      later.evaluationRuns = registry.evaluationRuns.put run := by
  unfold recordEvaluationRun at ok
  split at ok
  · cases ok
  · next absent =>
    split at ok
    · cases ok
    · split at ok <;> cases ok
      exact ⟨absent, rfl, rfl⟩

theorem registerPackageForTenant_eq_ok {tenantId user : String} {package : SkillPackage}
    {later : InMemorySkillRegistry}
    (ok : registry.registerPackageForTenant tenantId user package = .ok later) :
    registry.packages.get? (tenantId, package.skillId, package.version) = .none ∧
      later.packages = registry.packages.put
        { tenantId := tenantId, package := package, createdByUserId := user } ∧
      later.evaluationRuns = registry.evaluationRuns := by
  unfold registerPackageForTenant at ok
  split at ok
  · cases ok
  · next absent =>
    refine ⟨absent, ?_⟩
    split at ok
    · split at ok
      · cases ok
      · next registered =>
        unfold registerForTenant at registered
        split at registered <;> cases registered
        cases ok
        exact ⟨rfl, rfl⟩
    · split at ok <;> cases ok
      exact ⟨rfl, rfl⟩

theorem evaluate_eq_ok {tenantId skillId version : String} {suite : Option SkillEvaluationSuite}
    {executor : Option Verdict} {mark : RunMark} {later : InMemorySkillRegistry}
    (ok : registry.evaluate tenantId skillId version suite executor mark = .ok later) :
    ∃ record run, registry.packages.get? (tenantId, skillId, version) = some record ∧
      registry.recordEvaluationRun run = .ok later ∧
      (run.tenantId, run.skillId, run.version) = (tenantId, skillId, version) ∧
      (registry.Gated (.evaluate tenantId skillId version suite executor mark) →
        MadeWithOwn run record.package) := by
  unfold evaluate at ok
  cases looked : registry.getPackageVersion tenantId skillId version with
  | error raised => simp [looked] at ok
  | ok package =>
    obtain ⟨record, found, rfl⟩ := getPackageVersion_eq_ok.mp looked
    have key : record.key = (tenantId, skillId, version) := Table.key_of_get? found
    simp only [SkillPackageRecord.key, Prod.mk.injEq] at key
    simp only [looked] at ok
    split at ok
    · cases ok
    · next none_shipped =>
      refine ⟨record, _, found, ok, by simp [validationRun, key], fun _ => ?_⟩
      cases suite with
      | none => simp [MadeWithOwn, show record.package.evaluationSuite = .ok none from none_shipped]
      | some given => cases none_shipped
    · cases ok
    · next used _ resolved =>
      refine ⟨record, _, found, ok, by simp [runSuite, key], fun gated => ?_⟩
      cases suite with
      | none =>
        simp [MadeWithOwn, show record.package.evaluationSuite = .ok (some used) from resolved,
          runSuite]
      | some given =>
        cases resolved
        have own := gated record found
        unfold MadeWithOwn
        cases shipped : record.package.evaluationSuite with
        | error message => simp [shipped] at own
        | ok shipped_suite =>
          cases shipped_suite with
          | none => trivial
          | some shipped_suite => simpa [shipped, runSuite] using own

theorem changes_of_attempt {call : Call} {later : InMemorySkillRegistry}
    (ok : registry.attempt call = .ok later) : Changes registry call later := by
  cases call with
  | registerForTenant tenantId user manifest =>
    simp only [attempt, registerForTenant] at ok
    split at ok <;> cases ok
    exact .none rfl rfl fun _ => not_false
  | registerPackage tenantId user package =>
    obtain ⟨absent, packages, runs⟩ := registerPackageForTenant_eq_ok ok
    exact .register { tenantId := tenantId, package := package, createdByUserId := user }
      rfl absent packages runs fun _ => not_false
  | evaluate tenantId skillId version suite executor mark =>
    obtain ⟨record, run, found, recorded, key, own⟩ := evaluate_eq_ok ok
    obtain ⟨absent, packages, runs⟩ := recordEvaluationRun_eq_ok recorded
    exact .run run record absent (key ▸ found) own packages runs fun _ => not_false
  | publishEvaluated tenantId skillId version runId =>
    simp only [attempt, publishEvaluated] at ok
    split at ok
    · cases ok
    · next package looked =>
      obtain ⟨record, found, rfl⟩ := getPackageVersion_eq_ok.mp looked
      split at ok
      · cases ok
      · next run chosen =>
        split at ok
        · cases ok
        · next passes =>
          obtain ⟨record', found', packages, runs⟩ := updatePackageStatus_packages ok
          obtain rfl : record = record' := Option.some.inj (found.symm.trans found')
          refine .status record .published (Table.key_of_get? found ▸ found) packages runs ?_
          intro other
          constructor
          · rintro ⟨present, -⟩
            exact Option.some.inj (present.symm.trans found)
          · rintro rfl
            exact ⟨found, run, chosen, passes⟩
  | publishPackage tenantId skillId version =>
    obtain ⟨record, found, packages, runs⟩ := updatePackageStatus_packages ok
    refine .status record .published (Table.key_of_get? found ▸ found) packages runs fun other => ?_
    change registry.packages.get? (tenantId, skillId, version) = some other ↔ other = record
    rw [found, Option.some.injEq, eq_comm]
  | publish tenantId skillId =>
    obtain ⟨current, entry, runs, packages⟩ := updateCurrent_packages ok
    have publishes : ∀ other, registry.Publishes other (.publish tenantId skillId) ↔
        registry.packages.get? (tenantId, skillId, current.manifest.version) = some other := by
      intro other
      simp only [Publishes, entry, Option.some.injEq, exists_eq_left']
    cases found : registry.packages.get? (tenantId, skillId, current.manifest.version) with
    | none =>
      rw [found] at packages
      exact .none packages runs fun other published => by simp [publishes, found] at published
    | some record =>
      rw [found] at packages
      refine .status record .published (Table.key_of_get? found ▸ found) packages runs ?_
      intro other
      rw [publishes, found, Option.some.injEq, eq_comm]
  | disablePackage tenantId skillId version =>
    obtain ⟨record, found, packages, runs⟩ := updatePackageStatus_packages ok
    exact .status record .disabled (Table.key_of_get? found ▸ found) packages runs fun _ => not_false
  | disable tenantId skillId =>
    obtain ⟨current, entry, runs, packages⟩ := updateCurrent_packages ok
    cases found : registry.packages.get? (tenantId, skillId, current.manifest.version) with
    | none =>
      rw [found] at packages
      exact .none packages runs fun _ => not_false
    | some record =>
      rw [found] at packages
      exact .status record .disabled (Table.key_of_get? found ▸ found) packages runs
        fun _ => not_false
  | installForWorkspace tenantId workspaceId skillId user version digest =>
    simp only [attempt, installForWorkspace] at ok
    have kept : later.packages = registry.packages ∧
        later.evaluationRuns = registry.evaluationRuns := by
      split at ok
      · cases ok
      · split at ok
        · split at ok
          · cases ok
          · split at ok <;> cases ok
            exact ⟨rfl, rfl⟩
        · split at ok
          · cases ok
          · split at ok <;> cases ok
            exact ⟨rfl, rfl⟩
    exact .none kept.1 kept.2 fun _ => not_false

theorem attempt_of_publishes {call : Call} {record : SkillPackageRecord}
    (publishes : registry.Publishes record call) : ∃ later, registry.attempt call = .ok later := by
  have updates : ∀ tenantId skillId version,
      registry.packages.get? (tenantId, skillId, version) = some record →
      ∃ later, registry.updatePackageStatus tenantId skillId version .published = .ok later := by
    intro tenantId skillId version found
    rw [updatePackageStatus, getPackageRecord_eq_ok.mpr found]
    exact ⟨_, rfl⟩
  cases call with
  | publishEvaluated tenantId skillId version runId =>
    obtain ⟨found, run, chosen, passes⟩ := publishes
    have looked := getPackageVersion_eq_ok.mpr ⟨record, found, rfl⟩
    simp only [attempt, publishEvaluated, looked, chosen, passes]
    exact updates tenantId skillId version found
  | publishPackage tenantId skillId version => exact updates tenantId skillId version publishes
  | publish tenantId skillId =>
    obtain ⟨current, entry, found⟩ := publishes
    simp only [attempt, publish, updateCurrent, getForTenant, entry, found]
    exact updates tenantId skillId _ found
  | registerForTenant => cases publishes
  | registerPackage => cases publishes
  | evaluate => cases publishes
  | disablePackage => cases publishes
  | disable => cases publishes
  | installForWorkspace => cases publishes

theorem perform_changes (registry : InMemorySkillRegistry) (call : Call) :
    Changes registry call (registry.perform call) := by
  unfold perform
  cases attempted : registry.attempt call with
  | ok later => exact changes_of_attempt attempted
  | error raised =>
    refine .none rfl rfl fun record publishes => ?_
    obtain ⟨later, ok⟩ := attempt_of_publishes publishes
    cases ok.symm.trans attempted

end Changes

section Runs

variable {registry}

theorem certified_status {record : SkillPackageRecord} (status : SkillStatus) :
    registry.Certified { record with status := status } ↔ registry.Certified record := by
  have same : ∀ run, Certifies run { record with status := status } ↔ Certifies run record :=
    fun run => ⟨fun ⟨key, digest, passed, own⟩ => ⟨key, digest, passed, own⟩,
      fun ⟨key, digest, passed, own⟩ => ⟨key, digest, passed, own⟩⟩
  simp only [Certified, same]

theorem certified_congr {later : InMemorySkillRegistry} {record : SkillPackageRecord}
    (runs : later.evaluationRuns = registry.evaluationRuns) :
    later.Certified record ↔ registry.Certified record := by
  rw [Certified, Certified, runs]

theorem Certified.put {later : InMemorySkillRegistry} {record : SkillPackageRecord}
    {run : SkillEvaluationRun} (absent : registry.evaluationRuns.get? run.id = none)
    (runs : later.evaluationRuns = registry.evaluationRuns.put run)
    (certified : registry.Certified record) : later.Certified record := by
  obtain ⟨old, member, certifies⟩ := certified
  refine ⟨old, ?_, certifies⟩
  rw [runs, Table.mem_put]
  exact .inr ⟨member, Table.get?_eq_none.mp absent old member⟩

theorem publishedCertified_step (sound : registry.PublishedCertified) (call : Call) :
    (registry.perform call).PublishedCertified ↔ registry.PublishesCertified call := by
  cases perform_changes registry call with
  | none packages runs publishes =>
    refine iff_of_true (fun record member published => ?_) fun record p => (publishes record p).elim
    rw [certified_congr runs]
    exact sound record (packages ▸ member) published
  | register new draft absent packages runs publishes =>
    refine iff_of_true (fun record member published => ?_) fun record p => (publishes record p).elim
    rw [certified_congr runs]
    rw [packages, Table.mem_put] at member
    obtain rfl | ⟨member, -⟩ := member
    · cases draft.symm.trans published
    · exact sound record member published
  | run run record absent found own packages runs publishes =>
    refine iff_of_true (fun record member published => ?_) fun record p => (publishes record p).elim
    exact (sound record (packages ▸ member) published).put absent runs
  | status changed status found packages runs publishes =>
    have elsewhere : ∀ record ∈ (registry.perform call).packages.entries,
        record = { changed with status := status } ∨ record ∈ registry.packages.entries := by
      intro record member
      rw [packages, Table.mem_put] at member
      exact member.imp_right And.left
    by_cases published : status = .published
    · rw [if_pos published] at publishes
      constructor
      · intro after record p
        obtain rfl := (publishes record).mp p
        have member : { record with status := status } ∈ (registry.perform call).packages.entries := by
          rw [packages, Table.mem_put]
          exact .inl rfl
        rw [← certified_status status, ← certified_congr runs]
        exact after _ member published
      · intro certified record member here
        rw [certified_congr runs]
        obtain rfl | old := elsewhere record member
        · rw [certified_status]
          exact certified changed ((publishes changed).mpr rfl)
        · exact sound record old here
    · rw [if_neg published] at publishes
      refine iff_of_true (fun record member here => ?_) fun record p => (publishes record p).elim
      rw [certified_congr runs]
      obtain rfl | old := elsewhere record member
      · exact absurd here published
      · exact sound record old here

def OwnRuns (registry : InMemorySkillRegistry) : Prop :=
  ∀ run ∈ registry.evaluationRuns.entries, ∃ record,
    registry.packages.get? (run.tenantId, run.skillId, run.version) = some record ∧
      MadeWithOwn run record.package

theorem ownRuns_step (own : registry.OwnRuns) {call : Call} (gated : registry.Gated call) :
    (registry.perform call).OwnRuns := by
  have same_runs : (registry.perform call).evaluationRuns = registry.evaluationRuns →
      (∀ key record, registry.packages.get? key = some record → ∃ later,
        (registry.perform call).packages.get? key = some later ∧ later.package = record.package) →
      (registry.perform call).OwnRuns := by
    intro runs packages run member
    obtain ⟨record, found, made⟩ := own run (runs ▸ member)
    obtain ⟨later, found', same⟩ := packages _ record found
    exact ⟨later, found', same ▸ made⟩
  cases perform_changes registry call with
  | none packages runs publishes =>
    exact same_runs runs fun key record found => ⟨record, packages ▸ found, rfl⟩
  | register new draft absent packages runs publishes =>
    refine same_runs runs fun key record found => ⟨record, ?_, rfl⟩
    rw [packages, Table.get?_put_ne _ _ fun same => ?_, found]
    rw [same, absent] at found
    cases found
  | status changed status present packages runs publishes =>
    refine same_runs runs fun key record found => ?_
    rw [packages, Table.get?_put]
    split
    · next same =>
      rw [same] at found
      obtain rfl : changed = record := Option.some.inj (present.symm.trans found)
      exact ⟨_, rfl, rfl⟩
    · exact ⟨record, found, rfl⟩
  | run run record absent found made packages runs publishes =>
    intro other member
    rw [runs, Table.mem_put] at member
    rw [packages]
    obtain rfl | ⟨old, -⟩ := member
    · exact ⟨record, found, made gated⟩
    · exact own other old

theorem mem_listEvaluationRuns {tenantId skillId version : String} {run : SkillEvaluationRun} :
    run ∈ registry.listEvaluationRuns tenantId skillId version ↔
      run ∈ registry.evaluationRuns.entries ∧
        (run.tenantId, run.skillId, run.version) = (tenantId, skillId, version) := by
  simp [listEvaluationRuns, Ranked.mem_orderBy]

theorem mem_of_evaluationRunOf {tenantId skillId version : String} {runId : Option String}
    {run : SkillEvaluationRun}
    (chosen : registry.evaluationRunOf tenantId skillId version runId = .ok run) :
    run ∈ registry.listEvaluationRuns tenantId skillId version := by
  unfold evaluationRunOf at chosen
  cases runId with
  | none =>
    simp only [latestEvaluationRun] at chosen
    split at chosen
    · cases chosen
    · next last =>
      cases chosen
      exact List.mem_of_getLast? last
  | some id =>
    simp only at chosen
    split at chosen
    · cases chosen
    · next found =>
      cases chosen
      exact List.mem_of_find?_eq_some found

theorem assertPublishable_eq_none {package : SkillPackage} {run : SkillEvaluationRun}
    (passes : assertPublishable package run = none) :
    run.packageDigest = package.packageDigest ∧ run.status = .passed ∧ run.passed = some true := by
  unfold assertPublishable at passes
  split at passes
  · cases passes
  · split at passes
    · cases passes
    · split at passes
      · cases passes
      · next digest =>
        split at passes
        · cases passes
        · next status =>
          split at passes
          · cases passes
          · next passed => exact ⟨not_not.mp digest, not_not.mp status, not_not.mp passed⟩

theorem publishesCertified_of_gated (own : registry.OwnRuns) {call : Call}
    (gated : registry.Gated call) : registry.PublishesCertified call := by
  intro record publishes
  cases call with
  | publishEvaluated tenantId skillId version runId =>
    obtain ⟨found, run, chosen, passes⟩ := publishes
    obtain ⟨member, key⟩ := mem_listEvaluationRuns.mp (mem_of_evaluationRunOf chosen)
    obtain ⟨record', found', made⟩ := own run member
    rw [key, found] at found'
    cases found'
    obtain ⟨digest, passed⟩ := assertPublishable_eq_none passes
    exact ⟨run, member, key.trans (Table.key_of_get? found).symm, digest, passed, made⟩
  | publishPackage => exact gated.elim
  | publish tenantId skillId =>
    obtain ⟨current, entry, found⟩ := publishes
    cases (gated current entry).symm.trans found
  | registerForTenant => cases publishes
  | registerPackage => cases publishes
  | evaluate => cases publishes
  | disablePackage => cases publishes
  | disable => cases publishes
  | installForWorkspace => cases publishes

end Runs

section Handed

/-- The package is published, and it is the one that an enabled installation of the workspace
pins. -/
structure Pinned (tenantId workspaceId : String) (package : SkillPackage)
    (installation : SkillInstallation) (record : SkillPackageRecord) : Prop where
  installed : installation ∈ registry.installations.entries
  owner : installation.tenantId = tenantId ∧ installation.workspaceId = workspaceId
  enabled : installation.status = .enabled
  found : registry.packages.get? (tenantId, package.skillId, package.version) = some record
  published : record.status = .published
  same : record.package = package
  skill : installation.skillId = package.skillId
  version : installation.installedVersion = some package.version
  digest : installation.packageDigest = some package.packageDigest
  source : installation.sourceDigest = some package.sourceDigest
  dependencies : installation.resolvedDependencies = package.resolvedDependencies

variable {registry}

theorem pinned_of_resolve {installation : SkillInstallation} {package : SkillPackage}
    (member : installation ∈ registry.installations.entries)
    (resolved : registry.resolveCompletePackagePin installation = .ok package) :
    ∃ record, registry.Pinned installation.tenantId installation.workspaceId package
      installation record := by
  unfold resolveCompletePackagePin at resolved
  split at resolved
  · cases resolved
  · next enabled =>
    split at resolved
    · cases resolved
    · split at resolved
      · next version digest source =>
        split at resolved
        · cases resolved
        · next record looked =>
          split at resolved
          · cases resolved
          · next published =>
            split at resolved
            · cases resolved
            · next same_digest =>
              split at resolved
              · cases resolved
              · next same_source =>
                split at resolved
                · cases resolved
                · next same_dependencies =>
                  cases resolved
                  have found := getPackageRecord_eq_ok.mp looked
                  have key : record.key = (installation.tenantId, installation.skillId, _) :=
                    Table.key_of_get? found
                  have tenant := congrArg Prod.fst key
                  simp only [SkillPackageRecord.key, Prod.mk.injEq] at key
                  obtain ⟨-, skill, same_version⟩ := key
                  refine ⟨record, member, ⟨rfl, rfl⟩, not_not.mp enabled, ?_,
                    not_not.mp published, rfl, skill.symm, ?_, ?_, ?_, not_not.mp same_dependencies⟩
                  · rw [skill, same_version, found]
                  · rw [version, same_version]
                  · rw [digest, not_not.mp same_digest]
                  · rw [source, not_not.mp same_source]
      · cases resolved

theorem pinned_of_getInstalledPackage {tenantId workspaceId skillId : String}
    {package : SkillPackage}
    (loaded : registry.getInstalledPackage tenantId workspaceId skillId = .ok package) :
    ∃ installation record, registry.Pinned tenantId workspaceId package installation record := by
  unfold getInstalledPackage getInstallation at loaded
  cases found : registry.installations.get? (tenantId, workspaceId, skillId) with
  | none => simp [found] at loaded
  | some installation =>
    simp only [found] at loaded
    obtain ⟨record, pinned⟩ := pinned_of_resolve (Table.mem_of_get? found) loaded
    have key : installation.key = (tenantId, workspaceId, skillId) := Table.key_of_get? found
    simp only [SkillInstallation.key, Prod.mk.injEq] at key
    obtain ⟨rfl, rfl, -⟩ := key
    exact ⟨installation, record, pinned⟩

theorem pinned_of_discovered {tenantId workspaceId userId : String} {departmentId : Option String}
    {package : SkillPackage} (listed : package ∈
      registry.listDiscoverablePackages tenantId workspaceId userId departmentId) :
    ∃ installation record, registry.Pinned tenantId workspaceId package installation record := by
  obtain ⟨installation, member, discovered⟩ := List.mem_filterMap.mp listed
  rw [listForWorkspace, List.mem_filter] at member
  obtain ⟨member, owner⟩ := member
  simp only [decide_eq_true_eq] at owner
  obtain ⟨rfl, rfl⟩ := owner
  have resolved : registry.resolveCompletePackagePin installation = .ok package := by
    unfold InMemorySkillRegistry.discovered at discovered
    split at discovered
    · cases discovered
    · split at discovered
      · cases discovered
      · next resolved =>
        split at discovered
        · cases discovered
        · simp only [Option.ite_none_right_eq_some, Option.some.injEq] at discovered
          rw [resolved, discovered.2]
  obtain ⟨record, pinned⟩ := pinned_of_resolve member resolved
  exact ⟨installation, record, pinned⟩

end Handed

def step (registry : InMemorySkillRegistry) (call : Call) : Option InMemorySkillRegistry :=
  some (registry.perform call)

end InMemorySkillRegistry

open InMemorySkillRegistry

def reportWriter : SkillPackage where
  manifest := { id := "report-writer", version := "1.0.0" }
  packageDigest := "sha256:5f1c"
  sourceDigest := "sha256:9a02"
  evaluationSuite := .ok (some { suiteDigest := "sha256:51e3" })

end Taroai.Skills
