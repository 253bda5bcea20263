import Taroai.Skills.Archive
import Taroai.Skills.PackageDigest

/-! A skill package in a subdirectory of an archive, and the same files as an archive of their own. -/

namespace Taroai.SkillPackages

variable {lib : Library} {limits : SkillPackageLimits} {N : Type} {describe : Describe N}
  {archive alone : ZipArchive} {manifest : Option SkillManifest} {subdirectory : String}
  {package : SkillPackage lib N}

/-- The second archive holds the files of the subdirectory of the first, and nothing else. -/
def ContentAlone (lib : Library) (limits : SkillPackageLimits) (archive : ZipArchive)
    (subdirectory : String) (alone : ZipArchive) : Prop :=
  ∃ directory, normalizePackagePath lib.nfc (stripSeparators subdirectory) = .ok directory ∧
    (alone.contents lib limits).Perm (filesUnder
      (rootLead (names (archive.contents lib limits)) ++ (directory.toList ++ ['/']))
      (archive.contents lib limits))

structure SamePackage (imported package : SkillPackage lib N) : Prop where
  manifest_eq : imported.manifest = package.manifest
  files_eq : imported.files = package.files
  digest_eq : imported.packageDigest = package.packageDigest
  dependencies_eq : imported.resolvedDependencies = package.resolvedDependencies
  notes_eq : imported.notes = package.notes

/-- The archive can be read, SKILL.md is at its root, and there is one in the subdirectory. -/
structure Importable (lib : Library) (limits : SkillPackageLimits) (archive : ZipArchive)
    (subdirectory : String) : Prop where
  sound : Sound lib limits archive
  rooted : SkillAtRoot (names (archive.contents lib limits))
  skill : String.ofList (archive.lead lib limits (some subdirectory) ++ "SKILL.md".toList) ∈
    names (archive.contents lib limits)

theorem ContentAlone.perm (content : ContentAlone lib limits archive subdirectory alone) :
    SubdirectoryNamed lib.nfc (some subdirectory) ∧ (alone.contents lib limits).Perm
      (filesUnder (archive.lead lib limits (some subdirectory)) (archive.contents lib limits)) := by
  obtain ⟨directory, asked, perm⟩ := content
  constructor
  · intro other same
    obtain rfl := Option.some.inj same
    exact ⟨directory, asked⟩
  · rw [ZipArchive.lead, packageLead, subdirectoryLead_of_named asked]
    exact perm

theorem buildPackage_of_source {files : List (SkillPackageFile lib)} {source other : String}
    {described : Description N} (built : buildPackage lib files source described = .ok package) :
    buildPackage lib files other described = .ok { package with sourceDigest := other } := by
  unfold buildPackage at built ⊢
  split_ifs at built ⊢ with identifier version
  obtain ⟨⟨⟩, resolved, later⟩ := Json.except_bind_ok.mp built
  refine Json.except_bind_ok.mpr ⟨(), resolved, ?_⟩
  dsimp only at later ⊢
  split_ifs at later ⊢ with unique skill
  obtain rfl := Except.ok.inj later
  rfl

theorem sortRaw_perm {files others : RawFiles} (perm : files.Perm others)
    (distinct : ((names files).map (pathKey lib)).Nodup) : sortRaw files = sortRaw others := by
  have paths : (files.map Prod.fst).Nodup := List.Nodup.of_map (pathKey lib) distinct
  exact (sorted_inj paths ((perm.map Prod.fst).nodup_iff.mp paths)).mpr fun _ => perm.mem_iff

theorem readZip_of_alone {read : List (SkillPackageFile lib)}
    (content : ContentAlone lib limits archive subdirectory alone)
    (importable : Importable lib limits archive subdirectory)
    (given : readZip lib limits alone none = .ok read) :
    readZip lib limits archive (some subdirectory) = .ok read := by
  obtain ⟨named, perm⟩ := content.perm
  obtain ⟨-, selected, chosen, distinct, raw⟩ := readZip_ok.mp given
  obtain ⟨-, -, rfl, -⟩ := (selectFiles_ok contents_named).mp chosen
  have skill : "SKILL.md" ∈ names (filesUnder (archive.lead lib limits (some subdirectory))
      (archive.contents lib limits)) :=
    mem_names_filesUnder.mpr ⟨by decide, importable.skill⟩
  have atop : "SKILL.md" ∈ names (alone.contents lib limits) :=
    (perm.map Prod.fst).mem_iff.mpr skill
  have whole : filesUnder (packageLead lib.nfc (names (alone.contents lib limits)) none)
      (alone.contents lib limits) = alone.contents lib limits := by
    have root : rootLead (names (alone.contents lib limits)) = [] := if_pos atop
    rw [packageLead, root, subdirectoryLead, List.append_nil, filesUnder_nil contents_named]
  rw [whole] at distinct raw
  refine readZip_ok.mpr ⟨importable.sound, _,
    (selectFiles_ok contents_named).mpr ⟨importable.rooted, named, rfl, skill⟩, ?_, ?_⟩
  · exact (((perm.map Prod.fst).map (pathKey lib)).nodup_iff).mp distinct
  · rw [raw, sortRaw_perm perm distinct]
    rfl

theorem importable_of_ok
    (parsed : parseZip lib limits describe archive manifest (some subdirectory) = .ok package) :
    Importable lib limits archive subdirectory := by
  obtain ⟨files, skill_md, described, given, -, -, -, -⟩ := parseZip_ok.mp parsed
  obtain ⟨sound, selected, chosen, -, -⟩ := readZip_ok.mp given
  obtain ⟨rooted, -, rfl, skill⟩ := (selectFiles_ok contents_named).mp chosen
  exact ⟨sound, rooted, (mem_names_filesUnder.mp skill).2⟩

/-- The import of a subdirectory agrees with the import of its content alone just when the whole
archive can be read and has SKILL.md at its root. -/
theorem subdirectory_import_iff (content : ContentAlone lib limits archive subdirectory alone)
    (direct : parseZip lib limits describe alone manifest none = .ok package) :
    (∃ imported, parseZip lib limits describe archive manifest (some subdirectory) = .ok imported ∧
      SamePackage imported package) ↔ Importable lib limits archive subdirectory := by
  constructor
  · rintro ⟨imported, parsed, -⟩
    exact importable_of_ok parsed
  · intro importable
    obtain ⟨files, skill_md, described, given, found, small, told, built⟩ := parseZip_ok.mp direct
    have read := readZip_of_alone content importable given
    refine ⟨{ package with sourceDigest := lib.sha256Hex archive.bytes },
      parseZip_ok.mpr ⟨files, skill_md, described, read, found, small, told,
        buildPackage_of_source built⟩, ?_⟩
    exact ⟨rfl, rfl, rfl, rfl, rfl⟩

/-- A package with another one in its folder `a`. -/
def nestedMembers : List ZipInfo :=
  [skillMember, member "a/SKILL.md" [45, 45, 45], member "a/docs/note.md" [72, 105]]

theorem nested_import : ∃ package, parseNotes [skillMember, noteMember] none = .ok package ∧
    ∃ imported, parseNotes nestedMembers (some "a/") = .ok imported ∧
      SamePackage imported package := by
  obtain ⟨package, direct⟩ : ∃ package, parseNotes [skillMember, noteMember] none = .ok package :=
    exists_of_isOk (by decide +kernel)
  obtain ⟨imported, parsed⟩ : ∃ imported, parseNotes nestedMembers (some "a/") = .ok imported :=
    exists_of_isOk (by decide +kernel)
  have content : ContentAlone asciiLibrary {} (archiveOf nestedMembers) "a/"
      (archiveOf [skillMember, noteMember]) :=
    ⟨"a", by decide +kernel, List.Perm.of_eq (by decide +kernel)⟩
  exact ⟨package, direct, (subdirectory_import_iff content direct).mpr (importable_of_ok parsed)⟩

def repositoryMembers : List ZipInfo :=
  [member "repo-main/README.md" [72, 105], member "repo-main/skills/a/SKILL.md" [45, 45, 45]]

/-- A subdirectory is refused where there is no SKILL.md at the root of the archive. -/
theorem repository_refused : ContentAlone asciiLibrary {} (archiveOf repositoryMembers) "skills/a"
      (archiveOf [skillMember]) ∧
    (∃ package, parseNotes [skillMember] none = .ok package) ∧
      ∀ imported, parseNotes repositoryMembers (some "skills/a") ≠ .ok imported := by
  refine ⟨⟨"skills/a", by decide +kernel, List.Perm.of_eq (by decide +kernel)⟩,
    exists_of_isOk (by decide +kernel), fun imported parsed => ?_⟩
  have refused : (parseNotes repositoryMembers (some "skills/a")).isOk = false := by decide +kernel
  rw [parsed] at refused
  cases refused

end Taroai.SkillPackages
