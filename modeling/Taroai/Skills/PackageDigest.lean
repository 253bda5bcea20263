import Taroai.Agent.RepeatedActions
import Taroai.Skills.Package

/-! The digest of a skill package against what the package holds. The payload is written in a
canonical form, so the digest tells packages apart exactly when their manifests, their files or
their dependencies differ, in whatever order these came. -/

namespace Taroai.SkillPackages

open Json Skills

/-- The manifests say the same; the schemas may list their keys in another order. -/
structure SkillManifest.SameContent (m n : SkillManifest) : Prop where
  id : m.id = n.id
  version : m.version = n.version
  name : m.name = n.name
  description : m.description = n.description
  type : m.type = n.type
  owner : m.owner = n.owner
  inputSchema : Alike (.dict m.inputSchema) (.dict n.inputSchema)
  outputSchema : Alike (.dict m.outputSchema) (.dict n.outputSchema)
  requiredScopes : m.requiredScopes = n.requiredScopes
  riskLevel : m.riskLevel = n.riskLevel
  approvalRequired : m.approvalRequired = n.approvalRequired
  visibility : m.visibility = n.visibility
  visibleToDepartmentIds : m.visibleToDepartmentIds = n.visibleToDepartmentIds
  visibleToWorkspaceIds : m.visibleToWorkspaceIds = n.visibleToWorkspaceIds
  visibleToUserIds : m.visibleToUserIds = n.visibleToUserIds
  sandbox : m.runtime.sandbox = n.runtime.sandbox
  timeoutSeconds : m.runtime.timeoutSeconds = n.runtime.timeoutSeconds
  billingMeters : m.billingMeters = n.billingMeters
  tests : m.tests = n.tests
  evals : m.evals = n.evals

section Canonical

theorem canonicalItems_of_keys {items others : Items}
    (same : canonical (.dict items) = canonical (.dict others))
    (keys : items.map Prod.fst = others.map Prod.fst) (distinct : (items.map Prod.fst).Nodup) :
    canonicalItems items = canonicalItems others := by
  have perm := perm_of_canonical same
  have names (listed : Items) : (canonicalItems listed).map Prod.fst = listed.map Prod.fst := by
    rw [canonicalItems_eq, List.map_map]
    rfl
  have aligned : (canonicalItems items).map Prod.fst = (canonicalItems others).map Prod.fst := by
    rw [names, names, keys]
  have apart : ((canonicalItems others).map Prod.fst).Nodup := aligned ▸ names items ▸ distinct
  refine List.ext_getElem perm.length_eq fun i here there => ?_
  refine List.inj_on_of_nodup_map apart (perm.mem_iff.mp (List.getElem_mem here))
    (List.getElem_mem there) ?_
  have at_i := congrArg (fun keys => keys[i]?) aligned
  simpa [here, there] using at_i

theorem canonicalEach_eq (xs : List Json) : canonicalEach xs = xs.map canonical := by
  induction xs with
  | nil => rfl
  | cons x xs ih => rw [canonicalEach, ih, List.map_cons]

theorem canonical_texts (items : List String) : canonical (texts items) = texts items := by
  rw [texts, canonical, canonicalEach_eq, List.map_map]
  rfl

theorem texts_injective {items others : List String} (same : texts items = texts others) :
    items = others :=
  List.map_injective_iff.mpr (fun _ _ alike => Json.text.inj alike) (Json.list.inj same)

theorem type_value_injective {a b : SkillType} (same : a.value = b.value) : a = b := by
  revert same
  cases a <;> cases b <;> decide

theorem visibilityValue_injective {a b : SkillVisibility}
    (same : visibilityValue a = visibilityValue b) : a = b := by
  revert same
  cases a <;> cases b <;> decide

end Canonical

section Parts

variable {lib : Library}

theorem canonical_modelDump_iff {m n : SkillManifest} :
    canonical m.modelDump = canonical n.modelDump ↔ m.SameContent n := by
  constructor
  · intro same
    have items := canonicalItems_of_keys same rfl (by simp)
    simp only [canonicalItems, canonical_texts, canonical, List.cons.injEq, Prod.mk.injEq,
      Json.text.injEq, true_and, and_true] at items
    obtain ⟨id, version, name, description, type, owner, input, output, scopes, risk, approvals,
      visibility, departments, workspaces, users, runtime, meters, tests, evals⟩ := items
    have of_runtime := canonicalItems_of_keys runtime rfl (by simp)
    simp only [canonicalItems, canonical, List.cons.injEq, Prod.mk.injEq, Json.text.injEq,
      Json.int.injEq, true_and, and_true] at of_runtime
    exact
      { id, version, name, description, owner
        type := type_value_injective type
        inputSchema := alike_of_canonical m.input_proper n.input_proper input
        outputSchema := alike_of_canonical m.output_proper n.output_proper output
        requiredScopes := texts_injective scopes
        riskLevel := risk
        approvalRequired := texts_injective approvals
        visibility := visibilityValue_injective visibility
        visibleToDepartmentIds := texts_injective departments
        visibleToWorkspaceIds := texts_injective workspaces
        visibleToUserIds := texts_injective users
        sandbox := of_runtime.1
        timeoutSeconds := of_runtime.2
        billingMeters := texts_injective meters
        tests := texts_injective tests
        evals := texts_injective evals }
  · intro same
    have input := canonical_of_alike m.input_proper same.inputSchema
    have output := canonical_of_alike m.output_proper same.outputSchema
    simp only [SkillManifest.modelDump]
    rw [canonical, canonical]
    congr 2
    have runtime : m.runtime.modelDump = n.runtime.modelDump := by
      rw [SkillRuntime.modelDump, SkillRuntime.modelDump, same.sandbox, same.timeoutSeconds]
    simp only [canonicalItems]
    rw [same.id, same.version, same.name, same.description, same.type, same.owner, input, output,
      same.requiredScopes, same.riskLevel, same.approvalRequired, same.visibility,
      same.visibleToDepartmentIds, same.visibleToWorkspaceIds, same.visibleToUserIds, runtime,
      same.billingMeters, same.tests, same.evals]

theorem fileEntry_injective (collision_free : Function.Injective lib.sha256Hex)
    {file other : SkillPackageFile lib}
    (same : canonical (fileEntry file) = canonical (fileEntry other)) : file = other := by
  have items := canonicalItems_of_keys same rfl (by simp)
  simp only [canonicalItems, canonical, List.cons.injEq, Prod.mk.injEq, Json.text.injEq, true_and,
    and_true] at items
  obtain ⟨path, -, -, digest⟩ := items
  exact SkillPackageFile.ext_iff.mpr ⟨path, collision_free digest⟩

theorem dependencyDump_injective {dependency other : SkillDependency}
    (same : canonical (dependencyDump dependency) = canonical (dependencyDump other)) :
    dependency = other := by
  have items := canonicalItems_of_keys same rfl (by simp)
  simp only [canonicalItems, canonical, List.cons.injEq, Prod.mk.injEq, Json.text.injEq, true_and,
    and_true] at items
  obtain ⟨id, version, digest⟩ := items
  obtain ⟨id₁, version₁, pinned⟩ := dependency
  obtain ⟨id₂, version₂, pinned'⟩ := other
  cases pinned <;> cases pinned' <;> simp_all [canonical]

theorem utf8_injective {a b : List Char} (same : utf8 a = utf8 b) : a = b := by
  have arrays := Array.toList_inj.mp same
  exact String.ofList_injective (String.toByteArray_inj.mp (ByteArray.ext arrays))

theorem canonicalJsonBytes_inj {x y : Json} :
    canonicalJsonBytes lib x = canonicalJsonBytes lib y ↔ canonical x = canonical y := by
  constructor
  · exact fun same => dumpsCompact_injective (utf8_injective same)
  · exact fun same => congrArg (fun value => utf8 (dumpsCompact lib.float.text value)) same

theorem canonical_digestPayload_iff (collision_free : Function.Injective lib.sha256Hex)
    {m n : SkillManifest} {files files' : List (SkillPackageFile lib)}
    {dependencies dependencies' : List SkillDependency} :
    canonical (digestPayload m files dependencies) =
      canonical (digestPayload n files' dependencies') ↔
      m.SameContent n ∧ sortFiles files = sortFiles files' ∧
        sortDependencies dependencies = sortDependencies dependencies' := by
  constructor
  · intro same
    have items := canonicalItems_of_keys same rfl (by simp)
    simp only [canonicalItems, canonical, canonicalEach_eq, List.map_map, List.cons.injEq,
      Prod.mk.injEq, Json.list.injEq, true_and, and_true] at items
    obtain ⟨manifest, listed, pinned⟩ := items
    refine ⟨canonical_modelDump_iff.mp manifest, ?_, ?_⟩
    · exact List.map_injective_iff.mpr
        (fun _ _ alike => fileEntry_injective collision_free alike) listed
    · exact List.map_injective_iff.mpr (fun _ _ alike => dependencyDump_injective alike) pinned
  · rintro ⟨manifest, listed, pinned⟩
    have manifests := canonical_modelDump_iff.mpr manifest
    simp only [digestPayload]
    rw [canonical, canonical]
    simp only [canonicalItems]
    rw [manifests, listed, pinned]

end Parts

section Sorting

variable {lib : Library}

theorem sorted_inj {α κ : Type} [LinearOrder κ] {key : α → κ} {items others : List α}
    (distinct : (items.map key).Nodup) (distinct' : (others.map key).Nodup) :
    (items.insertionSort fun a b => key a ≤ key b) =
      (others.insertionSort fun a b => key a ≤ key b) ↔ ∀ item, item ∈ items ↔ item ∈ others := by
  have total : Std.Total fun a b : α => key a ≤ key b := ⟨fun a b => le_total (key a) (key b)⟩
  have trans : IsTrans α fun a b => key a ≤ key b := ⟨fun a b c => le_trans⟩
  have sorted := List.perm_insertionSort fun a b : α => key a ≤ key b
  constructor
  · intro same item
    rw [← (sorted items).mem_iff, same, (sorted others).mem_iff]
  · intro same
    have perm : items.Perm others :=
      (List.perm_ext_iff_of_nodup distinct.of_map distinct'.of_map).mpr same
    exact Ranked.eq_of_sorted ((sorted items).trans (perm.trans (sorted others).symm))
      (((sorted items).map key).nodup_iff.mpr distinct) (List.pairwise_insertionSort _ items)
      (List.pairwise_insertionSort _ others)

theorem sortFiles_inj {files files' : List (SkillPackageFile lib)}
    (distinct : (files.map SkillPackageFile.path).Nodup)
    (distinct' : (files'.map SkillPackageFile.path).Nodup) :
    sortFiles files = sortFiles files' ↔ ∀ file, file ∈ files ↔ file ∈ files' :=
  sorted_inj distinct distinct'

theorem sortDependencies_inj {dependencies dependencies' : List SkillDependency}
    (distinct : (dependencies.map SkillDependency.id).Nodup)
    (distinct' : (dependencies'.map SkillDependency.id).Nodup) :
    sortDependencies dependencies = sortDependencies dependencies' ↔
      ∀ dependency, dependency ∈ dependencies ↔ dependency ∈ dependencies' := by
  have keyed {listed : List SkillDependency} (ids : (listed.map SkillDependency.id).Nodup) :
      (listed.map fun d => toLex (d.id, d.version)).Nodup := by
    refine List.Nodup.of_map (fun key => (ofLex key).1) ?_
    rwa [List.map_map]
  exact sorted_inj (keyed distinct) (keyed distinct')

end Sorting

section Packages

variable {lib : Library} {limits limits' : SkillPackageLimits} {N : Type}
  {describe describe' : Describe N} {archive archive' : ZipArchive}
  {manifest manifest' : Option SkillManifest} {subdirectory subdirectory' : Option String}
  {p q : SkillPackage lib N}

structure SkillPackage.SameContent (p q : SkillPackage lib N) : Prop where
  manifest : p.manifest.SameContent q.manifest
  files : ∀ path content, (∃ file ∈ p.files, file.path = path ∧ file.content = content) ↔
    ∃ file ∈ q.files, file.path = path ∧ file.content = content
  dependencies : ∀ dependency,
    dependency ∈ p.resolvedDependencies ↔ dependency ∈ q.resolvedDependencies

theorem files_iff : (∀ path content, (∃ file ∈ p.files, file.path = path ∧ file.content = content) ↔
    ∃ file ∈ q.files, file.path = path ∧ file.content = content) ↔
      ∀ file, file ∈ p.files ↔ file ∈ q.files := by
  have held (package : SkillPackage lib N) (file : SkillPackageFile lib) :
      (∃ other ∈ package.files, other.path = file.path ∧ other.content = file.content) ↔
        file ∈ package.files := by
    constructor
    · rintro ⟨other, among, same⟩
      exact SkillPackageFile.ext_iff.mpr same ▸ among
    · exact fun among => ⟨file, among, rfl, rfl⟩
  constructor
  · intro same file
    rw [← held p, same, held q]
  · intro same path content
    exact exists_congr fun file => and_congr_left' (same file)

theorem parsed_package
    (parsed : parseZip lib limits describe archive manifest subdirectory = .ok p) :
    p.packageDigest = stablePackageDigest p.manifest p.files p.resolvedDependencies ∧
      (p.files.map SkillPackageFile.path).Nodup ∧
      (p.resolvedDependencies.map SkillDependency.id).Nodup := by
  obtain ⟨files, content, described, -, -, -, -, built⟩ := parseZip_ok.mp parsed
  have holds := buildPackage_ok built
  refine ⟨holds.digest_eq, ?_, ?_⟩
  · refine List.Nodup.of_map lib.casefold ?_
    rw [List.map_map, holds.files_eq]
    exact holds.unique
  · refine List.Nodup.of_map lib.casefold ?_
    rw [List.map_map, holds.dependencies_eq]
    exact ((List.perm_insertionSort _ _).map _).nodup_iff.mpr holds.pinned_once

end Packages

def asciiLower (text : String) : String := String.ofList (text.toList.map Char.toLower)

def spelled (content : Bytes) : String := String.ofList (content.map Char.ofUInt8)

theorem spelled_injective : Function.Injective spelled := by
  intro a b same
  refine List.map_injective_iff.mpr (fun x y alike => ?_) (String.ofList_injective same)
  have codes : x.toUInt32 = y.toUInt32 := congrArg Char.val alike
  have numbers := congrArg UInt32.toNat codes
  rw [UInt8.toNat_toUInt32, UInt8.toNat_toUInt32] at numbers
  exact UInt8.toNat_inj.mp numbers

def asciiLibrary : Library where
  nfc := .plain _
  casefold := asciiLower
  sha256Hex := spelled
  float := Agent.RepeatedActions.fractions

def noteManifest : SkillManifest where
  id := "notes.reader"
  version := "1.0.0"
  name := "Notes"
  description := "Reads notes"
  type := .workflow
  owner := "platform"
  inputSchema := [("type", .text "object")]
  outputSchema := [("type", .text "object")]
  runtime := { sandbox := "skill-package" }
  nonempty := by decide
  input_proper := by simp [Json.Proper, Json.ProperItems]
  output_proper := by simp [Json.Proper, Json.ProperItems]

def describeNotes : Describe Unit := fun _ _ => .ok ⟨noteManifest, [], ()⟩

def member (name : String) (content : Bytes) : ZipInfo where
  filename := name
  origFilename := name
  fileSize := content.length
  compressSize := content.length
  content := some content

def archiveOf (members : List ZipInfo) : ZipArchive := ⟨[80, 75], some members⟩

def parseNotes (members : List ZipInfo) (subdirectory : Option String) :
    Except SkillPackageError (SkillPackage asciiLibrary Unit) :=
  parseZip asciiLibrary {} describeNotes (archiveOf members) none subdirectory

def skillMember : ZipInfo := member "SKILL.md" [45, 45, 45]

def noteMember : ZipInfo := member "docs/note.md" [72, 105]

theorem exists_of_isOk {ε α : Type} {outcome : Except ε α} (ok : outcome.isOk = true) :
    ∃ value, outcome = .ok value := by
  cases outcome with
  | error e => cases ok
  | ok value => exact ⟨value, rfl⟩

end Taroai.SkillPackages
