import Mathlib
import Taroai.Skills.Package

/-! What `read_zip` accepts, and which files it then gives: every member is readable, the sizes are
within the limits, and the files are those below the root of the package, each under the rest of
its name. -/

namespace Taroai.SkillPackages

open PosixPath

variable {lib : Library} {limits : SkillPackageLimits}

section Members

def Readable (lib : Library) (limits : SkillPackageLimits) (info : ZipInfo) : Prop :=
  ∃ path, memberPath lib limits info = .ok path ∧
    (info.isDir = true ∨ ∃ content, memberContent lib path info = .ok content)

def memberFile (lib : Library) (limits : SkillPackageLimits) (info : ZipInfo) :
    Option (String × Bytes) :=
  if info.isDir then none
  else
    match memberPath lib limits info with
    | .error _ => none
    | .ok path => (memberContent lib path info).toOption.map fun content => (path, content)

def memberFiles (lib : Library) (limits : SkillPackageLimits) (infos : List ZipInfo) : RawFiles :=
  infos.filterMap (memberFile lib limits)

def uncompressedSize (infos : List ZipInfo) : Nat :=
  ((infos.filter fun info => !info.isDir).map ZipInfo.fileSize).sum

theorem readMember_ok {read next : Nat × RawFiles} {info : ZipInfo} :
    readMember lib limits read info = .ok next ↔ Readable lib limits info ∧
      (info.isDir = false → read.1 + info.fileSize ≤ limits.maxTotalUncompressedBytes) ∧
      next = (read.1 + uncompressedSize [info], read.2 ++ memberFiles lib limits [info]) := by
  unfold readMember
  rw [Json.except_bind_ok]
  cases directory : info.isDir with
  | true =>
    have files : memberFiles lib limits [info] = [] := by
      simp [memberFiles, memberFile, directory]
    have size : uncompressedSize [info] = 0 := by simp [uncompressedSize, directory]
    rw [files, size, List.append_nil, Nat.add_zero]
    constructor
    · rintro ⟨path, named, kept⟩
      refine ⟨⟨path, named, .inl directory⟩, fun other => ?_, (Except.ok.inj kept).symm⟩
      cases other
    · rintro ⟨⟨path, named, -⟩, -, rfl⟩
      exact ⟨path, named, rfl⟩
  | false =>
    have size : uncompressedSize [info] = info.fileSize := by simp [uncompressedSize, directory]
    rw [size]
    constructor
    · rintro ⟨path, named, kept⟩
      simp only [Bool.false_eq_true, if_false] at kept
      split_ifs at kept with large
      obtain ⟨content, held, written⟩ := Json.except_bind_ok.mp kept
      refine ⟨⟨path, named, .inr ⟨content, held⟩⟩, fun _ => by omega, ?_⟩
      have files : memberFiles lib limits [info] = [(path, content)] := by
        simp [memberFiles, memberFile, directory, named, held, Except.toOption]
      rw [files]
      exact (Except.ok.inj written).symm
    · rintro ⟨⟨path, named, held⟩, small, rfl⟩
      refine ⟨path, named, ?_⟩
      obtain ⟨content, held⟩ := held.resolve_left (by rw [directory]; exact Bool.false_ne_true)
      have files : memberFiles lib limits [info] = [(path, content)] := by
        simp [memberFiles, memberFile, directory, named, held, Except.toOption]
      have fits := small rfl
      simp only [Bool.false_eq_true, if_false]
      rw [if_neg (by omega), Json.except_bind_ok, files]
      exact ⟨content, held, rfl⟩

/-- The loop goes through when each member is readable and their sizes together are small enough. -/
theorem readMembers_ok {infos : List ZipInfo} {read next : Nat × RawFiles}
    (started : read.1 ≤ limits.maxTotalUncompressedBytes) :
    infos.foldlM (readMember lib limits) read = .ok next ↔
      (∀ info ∈ infos, Readable lib limits info) ∧
      read.1 + uncompressedSize infos ≤ limits.maxTotalUncompressedBytes ∧
      next = (read.1 + uncompressedSize infos, read.2 ++ memberFiles lib limits infos) := by
  induction infos generalizing read with
  | nil =>
    have nothing : (List.nil : List ZipInfo).foldlM (readMember lib limits) read = .ok read := rfl
    rw [nothing, Except.ok.injEq]
    simp [uncompressedSize, memberFiles, started, eq_comm]
  | cons info rest ih =>
    have size : uncompressedSize (info :: rest) = uncompressedSize [info] + uncompressedSize rest := by
      cases directory : info.isDir <;> simp [uncompressedSize, directory]
    have files : memberFiles lib limits (info :: rest) =
        memberFiles lib limits [info] ++ memberFiles lib limits rest := by
      rw [memberFiles, ← List.singleton_append, List.filterMap_append]
      rfl
    have only : info.isDir = false → uncompressedSize [info] = info.fileSize := by
      intro file
      simp [uncompressedSize, file]
    have none_of : info.isDir = true → uncompressedSize [info] = 0 := by
      intro directory
      simp [uncompressedSize, directory]
    rw [List.foldlM_cons, Json.except_bind_ok, size, files, List.forall_mem_cons]
    constructor
    · rintro ⟨middle, first, later⟩
      obtain ⟨readable, small, rfl⟩ := readMember_ok.mp first
      have fits : read.1 + uncompressedSize [info] ≤ limits.maxTotalUncompressedBytes := by
        cases directory : info.isDir with
        | true => rw [none_of directory]; omega
        | false => rw [only directory]; exact small directory
      obtain ⟨others, total, rfl⟩ := (ih fits).mp later
      refine ⟨⟨readable, others⟩, by dsimp only at total; omega, ?_⟩
      dsimp only
      rw [List.append_assoc, Nat.add_assoc]
    · rintro ⟨⟨readable, others⟩, total, rfl⟩
      refine ⟨_, readMember_ok.mpr ⟨readable, fun file => ?_, rfl⟩, (ih ?_).mpr ⟨others, ?_, ?_⟩⟩
      · have := only file
        omega
      · dsimp only
        omega
      · dsimp only
        omega
      · dsimp only
        rw [List.append_assoc, Nat.add_assoc]

theorem mapError_ok {ε δ α : Type} {f : ε → δ} {outcome : Except ε α} {a : α} :
    outcome.mapError f = .ok a ↔ outcome = .ok a := by
  cases outcome <;> simp [Except.mapError]

theorem memberFile_safe {info : ZipInfo} {file : String × Bytes}
    (given : memberFile lib limits info = some file) : SafePath file.1.toList := by
  unfold memberFile at given
  split_ifs at given
  cases named : memberPath lib limits info with
  | error e =>
    rw [named] at given
    cases given
  | ok path =>
    rw [named] at given
    obtain ⟨content, -, rfl⟩ := Option.map_eq_some_iff.mp given
    obtain ⟨normalized, accepted, checked⟩ := Json.except_bind_ok.mp named
    obtain ⟨-, -, kept⟩ := Json.except_bind_ok.mp checked
    obtain rfl := Except.ok.inj kept
    exact .of_accepted (mapError_ok.mp accepted)

theorem memberFiles_safe {infos : List ZipInfo} :
    ∀ file ∈ memberFiles lib limits infos, SafePath file.1.toList := by
  intro file among
  obtain ⟨info, -, given⟩ := List.mem_filterMap.mp among
  exact memberFile_safe given

end Members

section Roots

variable {lead further : List Char} {files selected : RawFiles} {path rest : String}
  {content : Bytes}

def cut (lead : List Char) (path : String) : Option String :=
  if lead.isPrefixOf path.toList && lead.length < path.toList.length then
    some (String.ofList (path.toList.drop lead.length))
  else none

def filesUnder (lead : List Char) (files : RawFiles) : RawFiles :=
  files.filterMap fun file => (cut lead file.1).map fun path => (path, file.2)

theorem cut_eq_some : cut lead path = some rest ↔ path.toList = lead ++ rest.toList ∧ rest ≠ "" := by
  unfold cut
  constructor
  · intro left
    split_ifs at left with longer
    obtain rfl := Option.some.inj left
    rw [Bool.and_eq_true, decide_eq_true_iff, List.isPrefixOf_iff_prefix] at longer
    obtain ⟨⟨others, whole⟩, more⟩ := longer
    rw [← whole] at more ⊢
    rw [List.drop_left, String.toList_ofList]
    refine ⟨rfl, fun nothing => ?_⟩
    rw [← String.toList_inj, String.toList_ofList] at nothing
    rw [nothing, List.length_append] at more
    exact absurd more (by simp)
  · rintro ⟨whole, nonempty⟩
    have more : 0 < rest.toList.length := by
      rw [List.length_pos_iff, ne_eq, String.toList_eq_nil_iff]
      exact nonempty
    have longer : (lead.isPrefixOf (lead ++ rest.toList) &&
        decide (lead.length < (lead ++ rest.toList).length)) = true := by
      rw [Bool.and_eq_true, decide_eq_true_iff, List.isPrefixOf_iff_prefix, List.length_append]
      exact ⟨List.prefix_append _ _, by omega⟩
    rw [whole, if_pos longer, List.drop_left, String.ofList_toList]

theorem cut_append : (cut lead path).bind (cut further) = cut (lead ++ further) path := by
  refine Option.ext fun rest => ?_
  rw [Option.bind_eq_some_iff, cut_eq_some]
  constructor
  · rintro ⟨middle, first, second⟩
    obtain ⟨whole, -⟩ := cut_eq_some.mp first
    obtain ⟨middle_eq, nonempty⟩ := cut_eq_some.mp second
    rw [whole, middle_eq, List.append_assoc]
    exact ⟨rfl, nonempty⟩
  · rintro ⟨whole, nonempty⟩
    refine ⟨String.ofList (further ++ rest.toList), cut_eq_some.mpr ⟨?_, ?_⟩,
      cut_eq_some.mpr ⟨String.toList_ofList, nonempty⟩⟩
    · rw [whole, String.toList_ofList, List.append_assoc]
    · intro nothing
      rw [← String.toList_inj, String.toList_ofList] at nothing
      exact nonempty (String.toList_eq_nil_iff.mp (List.append_eq_nil_iff.mp nothing).2)

theorem filesUnder_append :
    filesUnder further (filesUnder lead files) = filesUnder (lead ++ further) files := by
  unfold filesUnder
  rw [List.filterMap_filterMap]
  refine List.filterMap_congr fun file _ => ?_
  rw [← cut_append]
  cases cut lead file.1 <;> rfl

theorem filesUnder_nil (named : ∀ file ∈ files, file.1 ≠ "") : filesUnder [] files = files := by
  unfold filesUnder
  conv_rhs => rw [← List.filterMap_some (l := files)]
  refine List.filterMap_congr fun file among => ?_
  rw [cut_eq_some.mpr ⟨(List.nil_append _).symm, named file among⟩]
  rfl

theorem mem_filesUnder : (path, content) ∈ filesUnder lead files ↔
    path ≠ "" ∧ (String.ofList (lead ++ path.toList), content) ∈ files := by
  unfold filesUnder
  rw [List.mem_filterMap]
  constructor
  · rintro ⟨⟨whole, held⟩, among, left⟩
    obtain ⟨rest, shortened, same⟩ := Option.map_eq_some_iff.mp left
    obtain ⟨rfl, rfl⟩ := Prod.mk.inj same
    obtain ⟨whole_eq, nonempty⟩ := cut_eq_some.mp shortened
    rw [← whole_eq, String.ofList_toList]
    exact ⟨nonempty, among⟩
  · rintro ⟨nonempty, among⟩
    refine ⟨_, among, ?_⟩
    rw [cut_eq_some.mpr ⟨String.toList_ofList, nonempty⟩]
    rfl

def names (files : RawFiles) : List String := files.map Prod.fst

theorem hasSkill_iff : hasSkill files = true ↔ "SKILL.md" ∈ names files := by
  unfold hasSkill names
  rw [List.any_eq_true, List.mem_map]
  exact exists_congr fun file => and_congr_right' (by rw [decide_eq_true_iff])

theorem mem_names_filesUnder :
    path ∈ names (filesUnder lead files) ↔
      path ≠ "" ∧ String.ofList (lead ++ path.toList) ∈ names files := by
  unfold names
  rw [List.mem_map, List.mem_map]
  constructor
  · rintro ⟨⟨_, content⟩, among, rfl⟩
    obtain ⟨nonempty, whole⟩ := mem_filesUnder.mp among
    exact ⟨nonempty, _, whole, rfl⟩
  · rintro ⟨nonempty, ⟨_, content⟩, among, rfl⟩
    exact ⟨(path, content), mem_filesUnder.mpr ⟨nonempty, among⟩, rfl⟩

/-- What stands before the root in the names of an archive: the single top folder, unless SKILL.md
is beside it. -/
def rootLead (listed : List String) : List Char :=
  if "SKILL.md" ∈ listed then []
  else
    match listed with
    | [] => []
    | name :: _ => (firstPart name).toList ++ ['/']

def SkillAtRoot (listed : List String) : Prop :=
  "SKILL.md" ∈ listed ∨ ∃ wrapper, (∀ name ∈ listed, firstPart name = wrapper) ∧
    String.ofList (wrapper.toList ++ "/SKILL.md".toList) ∈ listed

theorem dedup_eq_singleton {items : List String} {item : String} :
    items.dedup = [item] ↔ items ≠ [] ∧ ∀ other ∈ items, other = item := by
  constructor
  · intro single
    refine ⟨?_, fun other among => ?_⟩
    · rintro rfl
      cases single
    · rw [← List.mem_dedup, single] at among
      exact List.mem_singleton.mp among
  · rintro ⟨nonempty, alike⟩
    rw [List.eq_replicate_of_mem alike]
    exact List.replicate_dedup (mt List.length_eq_zero_iff.mp nonempty)

theorem rootLead_eq {wrapper : String} (apart : "SKILL.md" ∉ names files) (nonempty : files ≠ [])
    (alike : ∀ name ∈ names files, firstPart name = wrapper) :
    rootLead (names files) = wrapper.toList ++ ['/'] := by
  unfold rootLead
  rw [if_neg apart]
  cases files with
  | nil => exact absurd rfl nonempty
  | cons file rest =>
    have first : firstPart file.1 = wrapper := alike _ List.mem_cons_self
    change (firstPart file.1).toList ++ ['/'] = _
    rw [first]

theorem skill_under {wrapper : String} :
    "SKILL.md" ∈ names (filesUnder (wrapper.toList ++ ['/']) files) ↔
      String.ofList (wrapper.toList ++ "/SKILL.md".toList) ∈ names files := by
  rw [mem_names_filesUnder, List.append_assoc]
  exact and_iff_right (by decide)

theorem skill_of_atRoot (named : ∀ file ∈ files, file.1 ≠ "")
    (rooted : SkillAtRoot (names files)) :
    "SKILL.md" ∈ names (filesUnder (rootLead (names files)) files) := by
  by_cases atop : "SKILL.md" ∈ names files
  · have lead : rootLead (names files) = [] := if_pos atop
    rw [lead, filesUnder_nil named]
    exact atop
  · obtain ⟨wrapper, all_in, found⟩ := rooted.resolve_left atop
    have nonempty : files ≠ [] := by
      rintro rfl
      cases found
    rw [rootLead_eq atop nonempty all_in]
    exact skill_under.mpr found

theorem normalizeArchiveRoot_ok (named : ∀ file ∈ files, file.1 ≠ "") :
    normalizeArchiveRoot files = .ok selected ↔
      SkillAtRoot (names files) ∧ selected = filesUnder (rootLead (names files)) files := by
  unfold normalizeArchiveRoot
  by_cases atop : "SKILL.md" ∈ names files
  · have lead : rootLead (names files) = [] := if_pos atop
    rw [if_pos (hasSkill_iff.mpr atop), lead, filesUnder_nil named, Except.ok.injEq]
    exact ⟨fun same => ⟨.inl atop, same.symm⟩, fun held => held.2.symm⟩
  · rw [if_neg (mt hasSkill_iff.mp atop)]
    have parts : (files.map fun file => firstPart file.1) = (names files).map firstPart := by
      rw [names, List.map_map]
      rfl
    rw [parts]
    constructor
    · intro stripped
      split at stripped
      · next wrapper single =>
        obtain ⟨nonempty, alike⟩ := dedup_eq_singleton.mp single
        have files_nonempty : files ≠ [] := by
          rintro rfl
          exact nonempty rfl
        have all_in : ∀ name ∈ names files, firstPart name = wrapper :=
          fun name among => alike _ (List.mem_map_of_mem among)
        dsimp only at stripped
        split_ifs at stripped with found
        obtain rfl := Except.ok.inj stripped
        rw [rootLead_eq atop files_nonempty all_in]
        exact ⟨.inr ⟨wrapper, all_in, skill_under.mp (hasSkill_iff.mp found)⟩, rfl⟩
      · cases stripped
    · rintro ⟨atop' | ⟨wrapper, all_in, found⟩, rfl⟩
      · exact absurd atop' atop
      · have files_nonempty : files ≠ [] := by
          rintro rfl
          cases found
        have single : ((names files).map firstPart).dedup = [wrapper] := by
          refine dedup_eq_singleton.mpr ⟨by simpa [names] using files_nonempty, ?_⟩
          intro part among
          obtain ⟨name, listed, rfl⟩ := List.mem_map.mp among
          exact all_in name listed
        rw [single, rootLead_eq atop files_nonempty all_in]
        exact if_pos (hasSkill_iff.mpr (skill_under.mpr found))

def subdirectoryLead (nfc : Nfc) : Option String → List Char
  | none => []
  | some subdirectory =>
    match normalizePackagePath nfc (stripSeparators subdirectory) with
    | .ok directory => directory.toList ++ ['/']
    | .error _ => []

def SubdirectoryNamed (nfc : Nfc) (subdirectory : Option String) : Prop :=
  ∀ asked ∈ subdirectory, ∃ directory,
    normalizePackagePath nfc (stripSeparators asked) = .ok directory

def packageLead (nfc : Nfc) (listed : List String) (subdirectory : Option String) : List Char :=
  rootLead listed ++ subdirectoryLead nfc subdirectory

theorem subdirectoryLead_of_named {nfc : Nfc} {subdirectory directory : String}
    (asked : normalizePackagePath nfc (stripSeparators subdirectory) = .ok directory) :
    subdirectoryLead nfc (some subdirectory) = directory.toList ++ ['/'] := by
  simp only [subdirectoryLead, asked]

theorem selectSubdirectory_ok {nfc : Nfc} {subdirectory : String} :
    selectSubdirectory nfc files subdirectory = .ok selected ↔
      SubdirectoryNamed nfc (some subdirectory) ∧
        selected = filesUnder (subdirectoryLead nfc (some subdirectory)) files ∧
          "SKILL.md" ∈ names selected := by
  unfold selectSubdirectory
  rw [Json.except_bind_ok]
  constructor
  · rintro ⟨directory, asked, given⟩
    rw [mapError_ok] at asked
    have lead : filesBelow directory files = filesUnder (directory.toList ++ ['/']) files := rfl
    dsimp only at given
    rw [lead] at given
    split_ifs at given with nothing found
    obtain rfl := Except.ok.inj given
    rw [subdirectoryLead_of_named asked]
    refine ⟨fun other same => ?_, rfl, hasSkill_iff.mp found⟩
    obtain rfl := Option.some.inj same
    exact ⟨directory, asked⟩
  · rintro ⟨named, rfl, found⟩
    obtain ⟨directory, asked⟩ := named subdirectory rfl
    rw [subdirectoryLead_of_named asked] at found ⊢
    refine ⟨directory, mapError_ok.mpr asked, ?_⟩
    have lead : filesBelow directory files = filesUnder (directory.toList ++ ['/']) files := rfl
    dsimp only
    rw [lead, if_neg, if_pos (hasSkill_iff.mpr found)]
    intro nothing
    rw [nothing] at found
    cases found

theorem selectFiles_ok (named : ∀ file ∈ files, file.1 ≠ "") {subdirectory : Option String} :
    selectFiles lib files subdirectory = .ok selected ↔
      SkillAtRoot (names files) ∧ SubdirectoryNamed lib.nfc subdirectory ∧
        selected = filesUnder (packageLead lib.nfc (names files) subdirectory) files ∧
          "SKILL.md" ∈ names selected := by
  unfold selectFiles packageLead
  rw [Json.except_bind_ok]
  cases subdirectory with
  | none =>
    dsimp only
    rw [subdirectoryLead, List.append_nil]
    constructor
    · rintro ⟨normalized, stripped, kept⟩
      obtain rfl := Except.ok.inj kept
      obtain ⟨rooted, rfl⟩ := (normalizeArchiveRoot_ok named).mp stripped
      exact ⟨rooted, by simp [SubdirectoryNamed], rfl, skill_of_atRoot named rooted⟩
    · rintro ⟨rooted, -, rfl, -⟩
      exact ⟨_, (normalizeArchiveRoot_ok named).mpr ⟨rooted, rfl⟩, rfl⟩
  | some subdirectory =>
    dsimp only
    constructor
    · rintro ⟨normalized, stripped, given⟩
      obtain ⟨rooted, rfl⟩ := (normalizeArchiveRoot_ok named).mp stripped
      obtain ⟨asked, rfl, found⟩ := selectSubdirectory_ok.mp given
      rw [← filesUnder_append]
      exact ⟨rooted, asked, rfl, found⟩
    · rintro ⟨rooted, asked, rfl, found⟩
      rw [← filesUnder_append] at found ⊢
      exact ⟨_, (normalizeArchiveRoot_ok named).mpr ⟨rooted, rfl⟩,
        selectSubdirectory_ok.mpr ⟨asked, rfl, found⟩⟩

end Roots

section Reads

variable {archive : ZipArchive} {subdirectory : Option String} {files selected : RawFiles}
  {read : List (SkillPackageFile lib)}

theorem assertUniquePaths_ok {seen : List (String × String)} :
    assertUniquePaths lib seen files = .ok () ↔ ((names files).map (pathKey lib)).Nodup ∧
      ∀ name ∈ names files, pathKey lib name ∉ seen.map Prod.fst := by
  induction files generalizing seen with
  | nil => simp [assertUniquePaths, names]
  | cons file rest ih =>
    obtain ⟨path, content⟩ := file
    have listed : names ((path, content) :: rest) = path :: names rest := rfl
    rw [assertUniquePaths, listed, List.map_cons, List.nodup_cons, List.forall_mem_cons]
    cases earlier : seen.find? fun item => item.1 = pathKey lib path with
    | some item =>
      have there : pathKey lib path ∈ seen.map Prod.fst := by
        have same := List.find?_some earlier
        rw [decide_eq_true_iff] at same
        exact same ▸ List.mem_map_of_mem (List.mem_of_find?_eq_some earlier)
      constructor
      · intro accepted
        cases accepted
      · rintro ⟨-, fresh, -⟩
        exact absurd there fresh
    | none =>
      have fresh : pathKey lib path ∉ seen.map Prod.fst := by
        intro there
        obtain ⟨item, among, same⟩ := List.mem_map.mp there
        have other := List.find?_eq_none.mp earlier item among
        rw [decide_eq_true_iff] at other
        exact other same
      dsimp only
      rw [ih, List.map_append, List.map_singleton]
      constructor
      · rintro ⟨distinct, apart⟩
        refine ⟨⟨fun again => ?_, distinct⟩, fresh, fun name among there => ?_⟩
        · obtain ⟨name, among, same⟩ := List.mem_map.mp again
          exact apart name among (same ▸ List.mem_append_right _ (List.mem_singleton_self _))
        · exact apart name among (List.mem_append_left _ there)
      · rintro ⟨⟨alone, distinct⟩, -, apart⟩
        refine ⟨distinct, fun name among there => ?_⟩
        rcases List.mem_append.mp there with old | new
        · exact apart name among old
        · have same : pathKey lib name = pathKey lib path := List.mem_singleton.mp new
          exact alone (same ▸ List.mem_map_of_mem among)

def SkillPackageFile.raw (file : SkillPackageFile lib) : String × Bytes := (file.path, file.content)

theorem makeFile_ok {raw : String × Bytes} {file : SkillPackageFile lib} :
    makeFile lib raw = .ok file ↔ file.raw = raw := by
  obtain ⟨path, content⟩ := raw
  unfold makeFile
  constructor
  · intro made
    split at made
    · cases made
    · split_ifs at made
      obtain rfl := Except.ok.inj made
      rfl
  · intro same
    obtain ⟨rfl, rfl⟩ := Prod.mk.inj same
    split
    · next e refused =>
      rw [file.normalized] at refused
      cases refused
    · next other accepted =>
      rw [file.normalized] at accepted
      obtain rfl := Except.ok.inj accepted
      rw [dif_pos rfl]

theorem makeFiles_ok : files.mapM (makeFile lib) = .ok read ↔ read.map SkillPackageFile.raw = files := by
  induction files generalizing read with
  | nil =>
    rw [List.mapM_nil, List.map_eq_nil_iff]
    exact ⟨fun made => (Except.ok.inj made).symm, fun same => congrArg Except.ok same.symm⟩
  | cons file rest ih =>
    rw [List.mapM_cons, Json.except_bind_ok]
    constructor
    · rintro ⟨first, made, later⟩
      obtain ⟨others, made_rest, kept⟩ := Json.except_bind_ok.mp later
      obtain rfl := Except.ok.inj kept
      rw [List.map_cons, makeFile_ok.mp made, ih.mp made_rest]
    · intro same
      obtain ⟨first, others, rfl, first_eq, others_eq⟩ := List.map_eq_cons_iff.mp same
      refine ⟨first, makeFile_ok.mpr first_eq, Json.except_bind_ok.mpr ⟨others, ?_, rfl⟩⟩
      exact ih.mpr others_eq

def ZipArchive.members (archive : ZipArchive) : List ZipInfo := archive.infolist.getD []

structure Sound (lib : Library) (limits : SkillPackageLimits) (archive : ZipArchive) : Prop where
  nonempty : archive.bytes ≠ []
  short : archive.bytes.length ≤ limits.maxArchiveBytes
  zip : archive.infolist.isSome = true
  few : (archive.members.filter fun info => !info.isDir).length ≤ limits.maxFiles
  readable : ∀ info ∈ archive.members, Readable lib limits info
  small : uncompressedSize archive.members ≤ limits.maxTotalUncompressedBytes

def ZipArchive.contents (lib : Library) (limits : SkillPackageLimits) (archive : ZipArchive) :
    RawFiles := memberFiles lib limits archive.members

theorem contents_named : ∀ file ∈ archive.contents lib limits, file.1 ≠ "" := by
  intro file among
  rw [ne_eq, ← String.toList_eq_nil_iff]
  exact (memberFiles_safe file among).nonempty

theorem readZip_ok : readZip lib limits archive subdirectory = .ok read ↔
    Sound lib limits archive ∧ ∃ selected,
      selectFiles lib (archive.contents lib limits) subdirectory = .ok selected ∧
        ((names selected).map (pathKey lib)).Nodup ∧
          read.map SkillPackageFile.raw = sortRaw selected := by
  unfold readZip
  constructor
  · intro given
    split_ifs at given with nothing long
    cases listed : archive.infolist with
    | none =>
      rw [listed] at given
      cases given
    | some infos =>
      rw [listed] at given
      dsimp only at given
      split_ifs at given with many
      obtain ⟨whole, members, later⟩ := Json.except_bind_ok.mp given
      obtain ⟨selected, chosen, last⟩ := Json.except_bind_ok.mp later
      obtain ⟨⟨⟩, unique, made⟩ := Json.except_bind_ok.mp last
      obtain ⟨readable, small, rfl⟩ := (readMembers_ok (Nat.zero_le _)).mp members
      have infos_eq : archive.members = infos := by simp [ZipArchive.members, listed]
      rw [ZipArchive.contents, infos_eq]
      refine ⟨?_, selected, chosen, (assertUniquePaths_ok.mp unique).1, makeFiles_ok.mp made⟩
      exact
        { nonempty := nothing
          short := by omega
          zip := by rw [listed]; rfl
          few := by rw [infos_eq]; omega
          readable := by rwa [infos_eq]
          small := by rw [infos_eq]; dsimp only at small; omega }
  · rintro ⟨sound, selected, chosen, distinct, made⟩
    obtain ⟨infos, listed⟩ := Option.isSome_iff_exists.mp sound.zip
    have infos_eq : archive.members = infos := by simp [ZipArchive.members, listed]
    have few := sound.few
    have small := sound.small
    have readable := sound.readable
    rw [infos_eq] at few small readable
    rw [ZipArchive.contents, infos_eq] at chosen
    rw [if_neg sound.nonempty, if_neg (by have := sound.short; omega), listed]
    dsimp only
    rw [if_neg (by omega), Json.except_bind_ok]
    refine ⟨_, (readMembers_ok (Nat.zero_le _)).mpr ⟨readable, by dsimp only; omega, rfl⟩, ?_⟩
    refine Json.except_bind_ok.mpr ⟨selected, chosen, Json.except_bind_ok.mpr ⟨(), ?_, ?_⟩⟩
    · exact assertUniquePaths_ok.mpr ⟨distinct, fun _ _ => List.not_mem_nil⟩
    · exact makeFiles_ok.mpr made

end Reads

section Parsed

variable {N : Type} {describe : Describe N} {archive : ZipArchive} {manifest : Option SkillManifest}
  {subdirectory : Option String} {package : SkillPackage lib N}

def ZipArchive.lead (lib : Library) (limits : SkillPackageLimits) (archive : ZipArchive)
    (subdirectory : Option String) : List Char :=
  packageLead lib.nfc (names (archive.contents lib limits)) subdirectory

/-- The content of the file that the package has at a path, as it is in the archive. -/
def ZipArchive.contentAt (lib : Library) (limits : SkillPackageLimits) (archive : ZipArchive)
    (subdirectory : Option String) (path : String) : Option Bytes :=
  ((archive.contents lib limits).find? fun file =>
    file.1.toList = archive.lead lib limits subdirectory ++ path.toList).map Prod.snd

theorem packageLead_shape (nfc : Nfc) (listed : List String) (subdirectory : Option String) :
    packageLead nfc listed subdirectory = [] ∨
      ∃ directory, packageLead nfc listed subdirectory = directory ++ ['/'] := by
  have root : rootLead listed = [] ∨ ∃ directory, rootLead listed = directory ++ ['/'] := by
    unfold rootLead
    split_ifs with atop
    · exact .inl rfl
    · cases listed with
      | nil => exact .inl rfl
      | cons name rest => exact .inr ⟨_, rfl⟩
  unfold packageLead
  cases subdirectory with
  | none =>
    rw [subdirectoryLead, List.append_nil]
    exact root
  | some subdirectory =>
    cases asked : normalizePackagePath nfc (stripSeparators subdirectory) with
    | error e =>
      have nothing : subdirectoryLead nfc (some subdirectory) = [] := by
        simp only [subdirectoryLead, asked]
      rw [nothing, List.append_nil]
      exact root
    | ok directory =>
      rw [subdirectoryLead_of_named asked, ← List.append_assoc]
      exact .inr ⟨_, rfl⟩

theorem nonempty_below_lead {path : String} {content : Bytes}
    (among : (String.ofList (archive.lead lib limits subdirectory ++ path.toList), content) ∈
      archive.contents lib limits) : path ≠ "" := by
  rintro rfl
  have safe := memberFiles_safe _ among
  rw [String.toList_ofList, String.toList_empty, List.append_nil, ZipArchive.lead] at safe
  rcases packageLead_shape lib.nfc (names (archive.contents lib limits)) subdirectory with
    nothing | ⟨directory, slash⟩
  · exact safe.nonempty nothing
  · rw [slash] at safe
    have parts := segments_append directory []
    exact (safe.segments [] (by rw [parts]; simp [segments])).named.1 rfl

theorem find?_of_alone {α : Type} {items : List α} {p : α → Bool} {item : α}
    (alone : ∀ one ∈ items, ∀ other ∈ items, p one = true → p other = true → one = other) :
    items.find? p = some item ↔ item ∈ items ∧ p item = true := by
  constructor
  · exact fun found => ⟨List.mem_of_find?_eq_some found, List.find?_some found⟩
  · rintro ⟨among, right⟩
    cases found : items.find? p with
    | none => exact absurd right (List.find?_eq_none.mp found item among)
    | some other =>
      rw [alone other (List.mem_of_find?_eq_some found) item among (List.find?_some found) right]

structure ReadFrom (lib : Library) (limits : SkillPackageLimits) (archive : ZipArchive)
    (subdirectory : Option String) (read : List (SkillPackageFile lib)) : Prop where
  among_iff : ∀ path content, (∃ file ∈ read, file.path = path ∧ file.content = content) ↔
    path ≠ "" ∧ (String.ofList (archive.lead lib limits subdirectory ++ path.toList), content) ∈
      archive.contents lib limits
  unique : (read.map fun file => pathKey lib file.path).Nodup

theorem readFrom_of_ok {read : List (SkillPackageFile lib)}
    (given : readZip lib limits archive subdirectory = .ok read) :
    ReadFrom lib limits archive subdirectory read := by
  obtain ⟨-, selected, chosen, distinct, raw⟩ := readZip_ok.mp given
  obtain ⟨-, -, selected_eq, -⟩ := (selectFiles_ok contents_named).mp chosen
  have sorted : (read.map SkillPackageFile.raw).Perm selected :=
    raw ▸ List.perm_insertionSort _ selected
  constructor
  · intro path content
    have held : (∃ file ∈ read, file.path = path ∧ file.content = content) ↔
        (path, content) ∈ read.map SkillPackageFile.raw := by
      rw [List.mem_map]
      exact exists_congr fun file => and_congr_right' Prod.mk_inj.symm
    rw [held, sorted.mem_iff, selected_eq, mem_filesUnder]
    rfl
  · have keys := (sorted.map fun file => pathKey lib file.1).nodup_iff
    rw [List.map_map] at keys
    refine keys.mpr ?_
    rw [names, List.map_map] at distinct
    exact distinct

theorem ReadFrom.contentAt {read : List (SkillPackageFile lib)}
    (holds : ReadFrom lib limits archive subdirectory read) :
    fileContent read = archive.contentAt lib limits subdirectory := by
  funext path
  refine Option.ext fun content => ?_
  have left : fileContent read path = some content ↔
      ∃ file ∈ read, file.path = path ∧ file.content = content := by
    have alone : ∀ file ∈ read, ∀ other ∈ read, decide (file.path = path) = true →
        decide (other.path = path) = true → file = other := by
      intro file among other among' here there
      rw [decide_eq_true_iff] at here there
      exact List.inj_on_of_nodup_map holds.unique among among' (by rw [here, there])
    rw [fileContent, Option.map_eq_some_iff]
    simp only [find?_of_alone alone, decide_eq_true_iff, and_assoc]
  have right : archive.contentAt lib limits subdirectory path = some content ↔ path ≠ "" ∧
      (String.ofList (archive.lead lib limits subdirectory ++ path.toList), content) ∈
        archive.contents lib limits := by
    have alone : ∀ file ∈ archive.contents lib limits, ∀ other ∈ archive.contents lib limits,
        decide (file.1.toList = archive.lead lib limits subdirectory ++ path.toList) = true →
        decide (other.1.toList = archive.lead lib limits subdirectory ++ path.toList) = true →
          file = other := by
      rintro ⟨name, one⟩ among ⟨other, two⟩ among' here there
      rw [decide_eq_true_iff] at here there
      obtain rfl : name = other := String.toList_inj.mp (here.trans there.symm)
      rw [← String.ofList_toList (s := name), here] at among among'
      have nonempty := nonempty_below_lead among
      obtain ⟨file, listed, file_path, rfl⟩ := (holds.among_iff path one).mpr ⟨nonempty, among⟩
      obtain ⟨file', listed', path', rfl⟩ := (holds.among_iff path two).mpr ⟨nonempty, among'⟩
      rw [List.inj_on_of_nodup_map holds.unique listed listed' (by rw [file_path, path'])]
    rw [ZipArchive.contentAt, Option.map_eq_some_iff]
    simp only [find?_of_alone alone, decide_eq_true_iff]
    constructor
    · rintro ⟨⟨name, held⟩, ⟨among, named⟩, rfl⟩
      rw [← String.ofList_toList (s := name), named] at among
      exact ⟨nonempty_below_lead among, among⟩
    · rintro ⟨-, among⟩
      exact ⟨_, ⟨among, String.toList_ofList⟩, rfl⟩
  rw [left, right, holds.among_iff]

theorem parsed_as (parsed : parseZip lib limits describe archive manifest subdirectory = .ok package) :
    ReadFrom lib limits archive subdirectory package.files ∧ ∃ described,
      describe manifest (archive.contentAt lib limits subdirectory) = .ok described ∧
        package.manifest = described.manifest := by
  obtain ⟨files, content, described, given, -, -, told, built⟩ := parseZip_ok.mp parsed
  have holds := buildPackage_ok built
  have read := readFrom_of_ok given
  rw [read.contentAt] at told
  rw [holds.files_eq]
  exact ⟨read, described, told, holds.manifest_eq⟩

end Parsed

end Taroai.SkillPackages
