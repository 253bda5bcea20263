import Taroai.Lib.FileTree
import Taroai.Skills.Archive
import Taroai.Skills.PackageDigest

/-! The writes that put a package into a sandbox: `skills/materializer.py`. Paths lead somewhere by
their names alone, since nothing that is written is a link. -/

namespace Taroai.SkillPackages

open PosixPath

structure SandboxSkillWrite where
  path : String
  content : Bytes
  contentDigest : String
  mode : Nat := 0o440
  under_root : "/workspace/.taroai/skills/".toList <+: path.toList
  mode_le : mode ≤ 0o777

structure SkillMaterializationPlan where
  skillId : String
  version : String
  rootPath : String
  packageDigest : String
  sourceDigest : String
  runtimeSandbox : String
  timeoutSeconds : Int
  resolvedDependencies : List Json
  writes : List SandboxSkillWrite
  timeout_pos : 1 ≤ timeoutSeconds

inductive MaterializeError where
  | path (e : PathError)
  | notOneSegment
deriving DecidableEq, Repr

def sandboxRoot : String := "/workspace/.taroai/skills"

def skillRoot (skillId version : String) : String :=
  sandboxRoot ++ "/" ++ skillId ++ "/" ++ version ++ "/"

theorem under_sandboxRoot (skillId version path : String) :
    "/workspace/.taroai/skills/".toList <+: (skillRoot skillId version ++ path).toList := by
  have root : "/workspace/.taroai/skills/" = sandboxRoot ++ "/" := rfl
  rw [root, skillRoot]
  simp only [String.toList_append, List.append_assoc]
  exact List.prefix_append_right_inj _ |>.mpr (List.prefix_append _ _)

def writeOf {lib : Library} (skillId version : String) (file : SkillPackageFile lib) :
    SandboxSkillWrite where
  path := skillRoot skillId version ++ file.path
  content := file.content
  contentDigest := file.contentDigest
  mode := if file.kind = .script then 0o550 else 0o440
  under_root := under_sandboxRoot skillId version file.path
  mode_le := by split <;> decide

variable {lib : Library} {limits : SkillPackageLimits} {N : Type}

/-- `SkillMaterializer.plan` -/
def plan (package : SkillPackage lib N) : Except MaterializeError SkillMaterializationPlan := do
  let skillId ← (normalizePackagePath lib.nfc package.manifest.id).mapError .path
  let version ← (normalizePackagePath lib.nfc package.manifest.version).mapError .path
  if skillId.toList.contains '/' || version.toList.contains '/' then .error .notOneSegment
  else return {
    skillId := package.manifest.id
    version := package.manifest.version
    rootPath := skillRoot skillId version
    packageDigest := package.packageDigest
    sourceDigest := package.sourceDigest
    runtimeSandbox := package.manifest.runtime.sandbox
    timeoutSeconds := package.manifest.runtime.timeoutSeconds
    resolvedDependencies := package.resolvedDependencies.map dependencyDump
    writes := (sortFiles package.files).map (writeOf skillId version)
    timeout_pos := package.manifest.runtime.timeout_pos }

section Places

variable {nfc : Nfc} {rawPath path : String} {root : List Char}

theorem resolve_slash (root : List Char) : resolve (root ++ ['/']) = resolve root := by
  unfold resolve
  rw [segments_append, List.foldl_append]
  rfl

theorem resolve_safe (safe : SafePath path.toList) (root : List Char) :
    resolve (root ++ '/' :: path.toList) = resolve (root ++ ['/']) ++ segments path.toList := by
  rw [resolve_slash]
  exact resolve_append root fun part listed => (safe.segments part listed).named

def Below (root place : List (List Char)) : Prop := ∃ names, names ≠ [] ∧ place = root ++ names

theorem below_of_safe (safe : SafePath path.toList) (root : List Char) :
    Below (resolve root) (resolve (root ++ '/' :: path.toList)) :=
  ⟨segments path.toList, segments_nonempty _, by rw [resolve_safe safe, resolve_slash]⟩

theorem SkillPackageFile.safe (file : SkillPackageFile lib) : SafePath file.path.toList :=
  .of_accepted file.normalized

theorem plan_ok {package : SkillPackage lib N} {intended : SkillMaterializationPlan}
    (planned : plan package = .ok intended) : ∃ skillId version,
      normalizePackagePath lib.nfc package.manifest.id = .ok skillId ∧
        normalizePackagePath lib.nfc package.manifest.version = .ok version ∧
          intended.rootPath = skillRoot skillId version ∧
            intended.writes = (sortFiles package.files).map (writeOf skillId version) := by
  obtain ⟨skillId, first, later⟩ := Json.except_bind_ok.mp planned
  obtain ⟨version, second, kept⟩ := Json.except_bind_ok.mp later
  split_ifs at kept
  obtain rfl := Except.ok.inj kept
  exact ⟨skillId, version, mapError_ok.mp first, mapError_ok.mp second, rfl, rfl⟩

theorem skillRoot_toList (skillId version : String) : ∃ root : List Char,
    (skillRoot skillId version).toList = root ++ ['/'] := by
  refine ⟨(sandboxRoot ++ "/" ++ skillId ++ "/" ++ version).toList, ?_⟩
  rw [skillRoot, String.toList_append]
  rfl

theorem resolve_write (skillId version : String) (file : SkillPackageFile lib) :
    resolve (writeOf skillId version file).path.toList =
      resolve (skillRoot skillId version).toList ++ segments file.path.toList := by
  obtain ⟨root, root_eq⟩ := skillRoot_toList skillId version
  have path_eq : (writeOf skillId version file).path.toList = root ++ '/' :: file.path.toList := by
    change (skillRoot skillId version ++ file.path).toList = _
    rw [String.toList_append, root_eq, List.append_assoc, List.singleton_append]
  rw [path_eq, root_eq, resolve_safe file.safe]

theorem below_of_plan {package : SkillPackage lib N} {intended : SkillMaterializationPlan}
    (planned : plan package = .ok intended) {write : SandboxSkillWrite}
    (among : write ∈ intended.writes) :
    Below (resolve intended.rootPath.toList) (resolve write.path.toList) := by
  obtain ⟨skillId, version, -, -, root, writes⟩ := plan_ok planned
  rw [writes] at among
  obtain ⟨file, -, rfl⟩ := List.mem_map.mp among
  rw [root, resolve_write]
  exact ⟨_, segments_nonempty _, rfl⟩

structure Confined (nfc : Nfc) (path : String) : Prop where
  relative : path.toList.head? ≠ some '/'
  named : ∀ part ∈ segments path.toList, Named part
  no_ascii_control : ∀ c ∈ path.toList, asciiControl c = false
  stable : normalizePackagePath nfc path = .ok path
  below : ∀ root, Below (resolve root) (resolve (root ++ '/' :: path.toList))

theorem confined_of_accepted (accepted : normalizePackagePath nfc rawPath = .ok path) :
    Confined nfc path := by
  have safe := SafePath.of_accepted accepted
  exact
    { relative := safe.relative
      named := fun part listed => (safe.segments part listed).named
      no_ascii_control := safe.no_control
      stable := normalizePackagePath_again accepted
      below := below_of_safe safe }

/-- Accepted paths are confined, as are the writes of a plan, and what is no safe path is refused. -/
theorem paths_cannot_escape (lib : Library) (rawPath : String) :
    (∀ path, normalizePackagePath lib.nfc rawPath = .ok path → Confined lib.nfc path) ∧
    ((∃ e, normalizePackagePath lib.nfc rawPath = .error e) ↔ ¬Acceptable lib.nfc rawPath) ∧
    ∀ (N : Type) (package : SkillPackage lib N) (intended : SkillMaterializationPlan),
      plan package = .ok intended → ∀ write ∈ intended.writes,
        Below (resolve intended.rootPath.toList) (resolve write.path.toList) :=
  ⟨fun _ => confined_of_accepted, refused_iff, fun _ _ _ planned _ => below_of_plan planned⟩

def control (c : Char) : Bool := asciiControl c || (128 ≤ c.toNat && c.toNat < 160)

/-- A control character beyond ASCII is let through. -/
theorem next_line_accepted : ¬∀ (nfc : Nfc) (rawPath path : String),
    normalizePackagePath nfc rawPath = .ok path → ∀ c ∈ path.toList, control c = false := by
  intro all
  have accepted : normalizePackagePath (.plain _) "a\u0085b" = .ok "a\u0085b" := by
    decide +kernel
  have free := all _ _ _ accepted '\u0085' (by simp)
  exact absurd free (by decide)

end Places

section Materialisation

variable {describe : Describe N} {archive : ZipArchive} {manifest : Option SkillManifest}
  {subdirectory : Option String} {package : SkillPackage lib N}

def placed (write : SandboxSkillWrite) : List (List Char) × Bytes :=
  (resolve write.path.toList, write.content)

/-- The package can be put into a sandbox: its writes are planned, and done in any order below an
empty root they give its files. -/
structure Materialises (package : SkillPackage lib N) : Prop where
  unique : (package.files.map fun file => pathKey lib file.path).Nodup
  no_ancestor : ∀ file ∈ package.files, ∀ other ∈ package.files,
    ¬file.path.toList ++ ['/'] <+: other.path.toList
  written : ∃ intended, plan package = .ok intended ∧
    ∀ (tree : FileTree (List Char) Bytes) (writes : List SandboxSkillWrite),
      tree.EmptyBelow (resolve intended.rootPath.toList) → writes.Perm intended.writes →
        ∃ next, tree.writeAll (writes.map placed) = some next ∧ ∀ names content,
          next (resolve intended.rootPath.toList ++ names) = some (.file content) ↔
            ∃ file ∈ package.files, segments file.path.toList = names ∧ file.content = content

theorem isToken_chars {others : List Char} {most : Nat} {text : String}
    (token : isToken others most text = true) (known : others.all tokenChar = true) :
    (∃ c ∈ text.toList.head?, c.isAlphanum = true) ∧ (∀ c ∈ text.toList, tokenChar c = true) ∧
      text.toList.length ≤ most + 1 := by
  unfold isToken at token
  cases whole : text.toList with
  | nil =>
    rw [whole] at token
    cases token
  | cons first rest =>
    rw [whole] at token
    simp only [Bool.and_eq_true, decide_eq_true_iff, List.all_eq_true, Bool.or_eq_true] at token
    obtain ⟨⟨start, few⟩, chars⟩ := token
    refine ⟨⟨first, rfl, start⟩, List.forall_mem_cons.mpr ⟨?_, fun c among => ?_⟩, ?_⟩
    · rw [tokenChar, start]
      rfl
    · rcases chars c among with alphanum | other
      · rw [tokenChar, alphanum]
        rfl
      · exact List.all_eq_true.mp known c other
    · rw [List.length_cons]
      omega

theorem token_path (nfc : Nfc) {others : List Char} {most : Nat} {text : String}
    (token : isToken others most text = true) (known : others.all tokenChar = true)
    (few : most < 1000) :
    text.toList.contains '/' = false ∧ ∀ path, normalizePackagePath nfc text = .ok path ↔
      path = text ∧ text.toList.getLast? ≠ some '.' := by
  obtain ⟨first, chars, short⟩ := isToken_chars token known
  refine ⟨?_, fun path => normalizePackagePath_token first chars (by omega)⟩
  rw [Bool.eq_false_iff, ne_eq, List.contains_iff_mem]
  exact fun slash => (tokenChar_range (chars '/' slash)).2.2.1 rfl

theorem plan_exists_iff : (∃ intended, plan package = .ok intended) ↔
    package.manifest.id.toList.getLast? ≠ some '.' ∧
      package.manifest.version.toList.getLast? ≠ some '.' := by
  have id_path := token_path lib.nfc package.identifier rfl (by omega)
  have version_path := token_path lib.nfc package.version rfl (by omega)
  constructor
  · rintro ⟨intended, planned⟩
    obtain ⟨skillId, version, first, second, -, -⟩ := plan_ok planned
    exact ⟨((id_path.2 _).mp first).2, ((version_path.2 _).mp second).2⟩
  · rintro ⟨id_dotless, version_dotless⟩
    have first := mapError_ok (f := MaterializeError.path) |>.mpr
      ((id_path.2 _).mpr ⟨rfl, id_dotless⟩)
    have second := mapError_ok (f := MaterializeError.path) |>.mpr
      ((version_path.2 _).mpr ⟨rfl, version_dotless⟩)
    unfold plan
    rw [first, second]
    dsimp only [bind, Except.bind]
    rw [id_path.1, version_path.1]
    exact ⟨_, rfl⟩

theorem written_of_apart {intended : SkillMaterializationPlan} (planned : plan package = .ok intended)
    (distinct : (package.files.map SkillPackageFile.path).Nodup)
    (no_ancestor : ∀ file ∈ package.files, ∀ other ∈ package.files,
      ¬file.path.toList ++ ['/'] <+: other.path.toList)
    {tree : FileTree (List Char) Bytes} {writes : List SandboxSkillWrite}
    (free : tree.EmptyBelow (resolve intended.rootPath.toList))
    (order : writes.Perm intended.writes) :
    ∃ next, tree.writeAll (writes.map placed) = some next ∧ ∀ names content,
      next (resolve intended.rootPath.toList ++ names) = some (.file content) ↔
        ∃ file ∈ package.files, segments file.path.toList = names ∧ file.content = content := by
  obtain ⟨skillId, version, -, -, root, intended_writes⟩ := plan_ok planned
  rw [root] at free ⊢
  let place (file : SkillPackageFile lib) : List (List Char) × Bytes :=
    (resolve (skillRoot skillId version).toList ++ segments file.path.toList, file.content)
  have items : (writes.map placed).Perm (package.files.map place) := by
    have each : (placed ∘ writeOf skillId version : SkillPackageFile lib → _) = place := by
      funext file
      change (resolve (writeOf skillId version file).path.toList, file.content) = _
      rw [resolve_write]
    have sorted : (writes.map placed).Perm ((sortFiles package.files).map place) := by
      rw [← each, ← List.map_map, ← intended_writes]
      exact order.map placed
    exact sorted.trans ((List.perm_insertionSort _ _).map place)
  have same_place {file other : SkillPackageFile lib} (alike : (place file).1 = (place other).1) :
      file.path = other.path :=
    String.toList_inj.mp (segments_injective (List.append_cancel_left alike))
  have places : ((package.files.map place).map Prod.fst).Nodup := by
    rw [List.map_map]
    refine List.Nodup.map_on ?_ distinct.of_map
    intro file among other among' alike
    exact List.inj_on_of_nodup_map distinct among among' (same_place alike)
  have apart : FileTree.Apart ((writes.map placed).map Prod.fst) := by
    intro one among other among' shorter
    rw [(items.map Prod.fst).mem_iff, List.map_map] at among among'
    obtain ⟨file, listed, rfl⟩ := List.mem_map.mp among
    obtain ⟨file', listed', rfl⟩ := List.mem_map.mp among'
    have parts := (List.prefix_append_right_inj _).mp shorter
    rcases segments_prefix.mp parts with same | above
    · exact congrArg (fun path => resolve (skillRoot skillId version).toList ++ segments path) same
    · exact absurd above (no_ancestor file listed file' listed')
  have below : ∀ item ∈ writes.map placed, ∃ names, names ≠ [] ∧
      item.1 = resolve (skillRoot skillId version).toList ++ names := by
    intro item among
    rw [items.mem_iff] at among
    obtain ⟨file, -, rfl⟩ := List.mem_map.mp among
    exact ⟨_, segments_nonempty _, rfl⟩
  obtain ⟨next, written, there⟩ :=
    FileTree.writeAll_below free ((items.map Prod.fst).nodup_iff.mpr places) apart below
  refine ⟨next, written, fun names content => ?_⟩
  rw [there, items.mem_iff, List.mem_map]
  refine exists_congr fun file => and_congr_right' ?_
  rw [Prod.mk.injEq, List.append_cancel_left_eq]

def NoFileAbove (lead : List Char) (listed : List String) : Prop :=
  ∀ name ∈ listed, ∀ other ∈ listed, lead <+: name.toList → ¬name.toList ++ ['/'] <+: other.toList

structure Writable (lib : Library) (limits : SkillPackageLimits) (describe : Describe N)
    (archive : ZipArchive) (manifest : Option SkillManifest) (subdirectory : Option String) :
    Prop where
  apart : NoFileAbove (archive.lead lib limits subdirectory) (names (archive.contents lib limits))
  dotless : ∀ described,
    describe manifest (archive.contentAt lib limits subdirectory) = .ok described →
      described.manifest.id.toList.getLast? ≠ some '.' ∧
        described.manifest.version.toList.getLast? ≠ some '.'

theorem no_ancestor_iff (read : ReadFrom lib limits archive subdirectory package.files) :
    (∀ file ∈ package.files, ∀ other ∈ package.files,
      ¬file.path.toList ++ ['/'] <+: other.path.toList) ↔
      NoFileAbove (archive.lead lib limits subdirectory) (names (archive.contents lib limits)) := by
  constructor
  · rintro no_ancestor _ among _ among' ⟨below, name_eq⟩ above
    obtain ⟨⟨name, content⟩, listed, rfl⟩ := List.mem_map.mp among
    obtain ⟨⟨other, content'⟩, listed', rfl⟩ := List.mem_map.mp among'
    dsimp only at name_eq above
    obtain ⟨further, other_eq⟩ := above
    rw [← name_eq, List.append_assoc, List.append_assoc] at other_eq
    rw [← String.ofList_toList (s := name), ← name_eq, ← String.toList_ofList (l := below)] at listed
    rw [← String.ofList_toList (s := other), ← other_eq,
      ← String.toList_ofList (l := below ++ (['/'] ++ further))] at listed'
    obtain ⟨file, in_package, path, -⟩ :=
      (read.among_iff _ _).mpr ⟨nonempty_below_lead listed, listed⟩
    obtain ⟨file', in_package', path', -⟩ :=
      (read.among_iff _ _).mpr ⟨nonempty_below_lead listed', listed'⟩
    refine no_ancestor file in_package file' in_package' ⟨further, ?_⟩
    rw [path, path', String.toList_ofList, String.toList_ofList, List.append_assoc]
  · intro apart file in_package file' in_package' above
    obtain ⟨-, listed⟩ := (read.among_iff _ _).mp ⟨file, in_package, rfl, rfl⟩
    obtain ⟨-, listed'⟩ := (read.among_iff _ _).mp ⟨file', in_package', rfl, rfl⟩
    refine apart _ (List.mem_map_of_mem listed) _ (List.mem_map_of_mem listed') ?_ ?_
    · rw [String.toList_ofList]
      exact List.prefix_append _ _
    · rw [String.toList_ofList, String.toList_ofList, List.append_assoc]
      exact (List.prefix_append_right_inj _).mpr above

/-- A package that was parsed is materialised just when no file of it is above another and neither
its identifier nor its version ends in a dot. -/
theorem materialises_iff
    (parsed : parseZip lib limits describe archive manifest subdirectory = .ok package) :
    Materialises package ↔ Writable lib limits describe archive manifest subdirectory := by
  obtain ⟨read, described, told, manifest_eq⟩ := parsed_as parsed
  have paths : (package.files.map SkillPackageFile.path).Nodup := (parsed_package parsed).2.1
  constructor
  · rintro ⟨-, no_ancestor, intended, planned, -⟩
    refine ⟨(no_ancestor_iff read).mp no_ancestor, fun other other_told => ?_⟩
    rw [told] at other_told
    obtain rfl := Except.ok.inj other_told
    rw [← manifest_eq]
    exact plan_exists_iff.mp ⟨intended, planned⟩
  · intro writable
    have no_ancestor := (no_ancestor_iff read).mpr writable.apart
    have dotless := writable.dotless described told
    rw [← manifest_eq] at dotless
    obtain ⟨intended, planned⟩ := plan_exists_iff.mpr dotless
    exact ⟨read.unique, no_ancestor, intended, planned, fun tree writes free order =>
      written_of_apart planned paths no_ancestor free order⟩

theorem notes_materialise : ∃ package, parseNotes [skillMember, noteMember] none = .ok package ∧
    Materialises package := by
  obtain ⟨package, parsed⟩ : ∃ package, parseNotes [skillMember, noteMember] none = .ok package :=
    exists_of_isOk (by decide +kernel)
  refine ⟨package, parsed, (materialises_iff parsed).mpr ⟨?_, fun described told => ?_⟩⟩
  · unfold NoFileAbove
    decide +kernel
  · obtain rfl := Except.ok.inj told
    decide

/-- A file and a folder of one name are accepted together. -/
theorem file_in_place_of_folder : ∃ package,
    parseNotes [skillMember, member "docs" [72], member "docs/note.md" [72]] none = .ok package ∧
      ¬Materialises package := by
  obtain ⟨package, parsed⟩ : ∃ package,
      parseNotes [skillMember, member "docs" [72], member "docs/note.md" [72]] none = .ok package :=
    exists_of_isOk (by decide +kernel)
  refine ⟨package, parsed, fun materialises => ?_⟩
  have apart := (no_ancestor_iff (parsed_as parsed).1).mp materialises.no_ancestor
  refine apart "docs" ?_ "docs/note.md" ?_ ?_ ?_ <;> decide +kernel

end Materialisation

end Taroai.SkillPackages
