import Mathlib.Data.List.Infix
import Mathlib.Data.Prod.Lex
import Taroai.Lib.JsonCompact
import Taroai.Lib.Ranked
import Taroai.Skills.PackagePath
import Taroai.Skills.Registry

/-! Skill packages: `skills/package.py` and `skills/manifest.py`. A ZIP archive comes as the list of
its members, with what reading each of them gives. What the parser makes of the texts of SKILL.md,
taroai.yaml and the release notes, before the checks on the identifiers, is a parameter: it reads
the files by their paths. A bad value is refused, so a value of these types is a valid one; the
size and the digest of a file are those of its content. -/

namespace Taroai.SkillPackages

open Skills (SkillVisibility SkillDependency)

abbrev Bytes := List UInt8

structure Library where
  nfc : Nfc
  casefold : String → String
  sha256Hex : Bytes → String
  float : Json.FloatText

inductive SkillType where
  | api
  | browser
  | document
  | data
  | communication
  | workflow
  | agentTemplate
deriving DecidableEq, Repr

def SkillType.value : SkillType → String
  | api => "api_skill"
  | browser => "browser_skill"
  | document => "document_skill"
  | data => "data_skill"
  | communication => "communication_skill"
  | workflow => "workflow_skill"
  | agentTemplate => "agent_template"

def visibilityValue : SkillVisibility → String
  | .tenant => "tenant"
  | .department => "department"
  | .workspace => "workspace"
  | .private_ => "private"

structure SkillRuntime where
  sandbox : String
  timeoutSeconds : Int := 1800
  timeout_pos : 1 ≤ timeoutSeconds := by decide

structure SkillManifest where
  id : String
  version : String
  name : String
  description : String
  type : SkillType
  owner : String
  inputSchema : Json.Items
  outputSchema : Json.Items
  requiredScopes : List String := []
  riskLevel : String := "low"
  approvalRequired : List String := []
  visibility : SkillVisibility := .tenant
  visibleToDepartmentIds : List String := []
  visibleToWorkspaceIds : List String := []
  visibleToUserIds : List String := []
  runtime : SkillRuntime
  billingMeters : List String := []
  tests : List String := []
  evals : List String := []
  nonempty : ∀ text ∈ [id, version, name, description, owner], text ≠ ""
  input_proper : Json.Proper (.dict inputSchema)
  output_proper : Json.Proper (.dict outputSchema)

inductive SkillPackageFileKind where
  | instructions
  | governance
  | script
  | reference
  | asset
  | example_
  | evaluation
  | releaseNotes
  | other
deriving DecidableEq, Repr

def SkillPackageFileKind.value : SkillPackageFileKind → String
  | instructions => "instructions"
  | governance => "governance"
  | script => "script"
  | reference => "reference"
  | asset => "asset"
  | example_ => "example"
  | evaluation => "evaluation"
  | releaseNotes => "release_notes"
  | other => "other"

def releaseNotePaths : List String := ["RELEASE_NOTES.md", "CHANGELOG.md", "RELEASE.md"]

/-- `path.split("/", 1)[0]` -/
def firstPart (path : String) : String :=
  String.ofList (path.toList.takeWhile fun c => c ≠ '/')

/-- `classify_skill_file` of a path that is normalised already. -/
def classifySkillFile (path : String) : SkillPackageFileKind :=
  if path = "SKILL.md" then .instructions
  else if path = "taroai.yaml" then .governance
  else if path ∈ releaseNotePaths then .releaseNotes
  else if firstPart path = "scripts" then .script
  else if firstPart path = "references" then .reference
  else if firstPart path = "assets" then .asset
  else if firstPart path = "examples" then .example_
  else if firstPart path = "evals" then .evaluation
  else .other

structure SkillPackageFile (lib : Library) where
  path : String
  content : Bytes
  normalized : normalizePackagePath lib.nfc path = .ok path

namespace SkillPackageFile

variable {lib : Library}

def kind (file : SkillPackageFile lib) : SkillPackageFileKind := classifySkillFile file.path

def contentDigest (file : SkillPackageFile lib) : String := lib.sha256Hex file.content

theorem ext_iff {file other : SkillPackageFile lib} :
    file = other ↔ file.path = other.path ∧ file.content = other.content := by
  cases file
  cases other
  simp

end SkillPackageFile

section Digest

def texts (items : List String) : Json := .list (items.map .text)

def SkillRuntime.modelDump (runtime : SkillRuntime) : Json :=
  .dict [("sandbox", .text runtime.sandbox), ("timeout_seconds", .int runtime.timeoutSeconds)]

/-- `model_dump(mode="json")` -/
def SkillManifest.modelDump (manifest : SkillManifest) : Json :=
  .dict [("id", .text manifest.id), ("version", .text manifest.version),
    ("name", .text manifest.name), ("description", .text manifest.description),
    ("type", .text manifest.type.value), ("owner", .text manifest.owner),
    ("input_schema", .dict manifest.inputSchema), ("output_schema", .dict manifest.outputSchema),
    ("required_scopes", texts manifest.requiredScopes), ("risk_level", .text manifest.riskLevel),
    ("approval_required", texts manifest.approvalRequired),
    ("visibility", .text (visibilityValue manifest.visibility)),
    ("visible_to_department_ids", texts manifest.visibleToDepartmentIds),
    ("visible_to_workspace_ids", texts manifest.visibleToWorkspaceIds),
    ("visible_to_user_ids", texts manifest.visibleToUserIds),
    ("runtime", manifest.runtime.modelDump), ("billing_meters", texts manifest.billingMeters),
    ("tests", texts manifest.tests), ("evals", texts manifest.evals)]

def dependencyDump (dependency : SkillDependency) : Json :=
  .dict [("id", .text dependency.id), ("version", .text dependency.version),
    ("package_digest", dependency.packageDigest.elim .null .text)]

def fileEntry {lib : Library} (file : SkillPackageFile lib) : Json :=
  .dict [("path", .text file.path), ("kind", .text file.kind.value),
    ("size_bytes", .int file.content.length), ("content_digest", .text file.contentDigest)]

def sortFiles {lib : Library} (files : List (SkillPackageFile lib)) : List (SkillPackageFile lib) :=
  files.insertionSort fun a b => a.path ≤ b.path

def sortDependencies (dependencies : List SkillDependency) : List SkillDependency :=
  dependencies.insertionSort fun a b => toLex (a.id, a.version) ≤ toLex (b.id, b.version)

def digestPayload {lib : Library} (manifest : SkillManifest) (files : List (SkillPackageFile lib))
    (dependencies : List SkillDependency) : Json :=
  .dict [("schema", .text "taroai.skill-package.v1"), ("manifest", manifest.modelDump),
    ("files", .list ((sortFiles files).map fileEntry)),
    ("resolved_dependencies", .list ((sortDependencies dependencies).map dependencyDump))]

/-- `.encode("utf-8")` -/
def utf8 (text : List Char) : Bytes := (String.ofList text).toByteArray.data.toList

def canonicalJsonBytes (lib : Library) (value : Json) : Bytes :=
  utf8 (Json.dumpsCompact lib.float.text (Json.canonical value))

def stablePackageDigest {lib : Library} (manifest : SkillManifest)
    (files : List (SkillPackageFile lib)) (dependencies : List SkillDependency) : String :=
  lib.sha256Hex (canonicalJsonBytes lib (digestPayload manifest files dependencies))

end Digest

structure SkillPackageLimits where
  maxArchiveBytes : Nat := 32 * 1024 * 1024
  maxFiles : Nat := 256
  maxFileBytes : Nat := 4 * 1024 * 1024
  maxTotalUncompressedBytes : Nat := 32 * 1024 * 1024
  maxCompressionRatio : ℚ := 100
  maxSkillMdBytes : Nat := 512 * 1024

inductive SkillPackageError where
  | path (e : PathError)
  | emptyArchive
  | archiveTooLarge
  | notAZip
  | tooManyFiles
  | totalTooLarge
  | unreadable (path : String)
  | sizeMismatch (path : String)
  | encrypted (path : String)
  | symbolicLink (path : String)
  | specialMember (path : String)
  | fileTooLarge (path : String)
  | badCompressedSize (path : String)
  | compressionRatio (path : String)
  | credentialFilename (path : String)
  | credentialExtension (path : String)
  | credentialLike (path : String)
  | skillNotAtRoot
  | wrapperWithoutSkill
  | subdirectoryNotFound (subdirectory : String)
  | subdirectoryWithoutSkill
  | collidingPaths (first second : String)
  | notNormalized (path : String)
  | skillRequired
  | skillTooLarge
  | unsafeIdentifier (id : String)
  | unsafeVersion (version : String)
  | duplicateDependency (id : String)
  | duplicatePaths
  | skillMdRequired
  /-- The texts of the package are refused. -/
  | described (message : String)
deriving DecidableEq, Repr

structure ZipInfo where
  filename : String
  origFilename : String
  flagBits : Nat := 0
  externalAttr : Nat := 0
  fileSize : Nat
  compressSize : Nat
  content : Option Bytes
deriving DecidableEq, Repr

def ZipInfo.isDir (info : ZipInfo) : Bool := info.filename.toList.getLast? = some '/'

structure ZipArchive where
  bytes : Bytes
  infolist : Option (List ZipInfo)

section Members

variable (lib : Library) (limits : SkillPackageLimits)

/-- `stat.S_IFMT(info.external_attr >> 16)` -/
def fileType (info : ZipInfo) : Nat := (info.externalAttr >>> 16) &&& 0o170000

def assertSafeZipMember (info : ZipInfo) (path : String) : Except SkillPackageError Unit :=
  if info.flagBits &&& 1 ≠ 0 then .error (.encrypted path)
  else if fileType info = 0o120000 then .error (.symbolicLink path)
  else if fileType info ∉ [0, 0o100000, 0o040000] then .error (.specialMember path)
  else if limits.maxFileBytes < info.fileSize then .error (.fileTooLarge path)
  else if info.fileSize ≠ 0 then
    if info.compressSize = 0 then .error (.badCompressedSize path)
    else if limits.maxCompressionRatio < (info.fileSize : ℚ) / info.compressSize then
      .error (.compressionRatio path)
    else .ok ()
  else .ok ()

def credentialFilenames : List String :=
  [".env", ".npmrc", ".pypirc", "auth.json", "credentials.json", "service-account.json",
    "service_account.json", "id_rsa", "id_dsa", "id_ecdsa", "id_ed25519", "known_hosts"]

def credentialSuffixes : List String := [".pem", ".key", ".p12", ".pfx", ".jks"]

/-- `path.rsplit("/", 1)[-1].casefold()` -/
def basename (path : String) : String :=
  lib.casefold (String.ofList (path.toList.rtakeWhile fun c => c ≠ '/'))

def endsWithAny (suffixes : List String) (text : String) : Bool :=
  suffixes.any fun suffix => suffix.toList.isSuffixOf text.toList

def assertNotCredentialPath (path : String) : Except SkillPackageError Unit :=
  let name := basename lib path
  if name ∈ credentialFilenames || ".env.".toList.isPrefixOf name.toList then
    .error (.credentialFilename path)
  else if endsWithAny credentialSuffixes name then .error (.credentialExtension path)
  else if "credential".toList <:+: name.toList && endsWithAny [".json", ".yaml", ".yml"] name then
    .error (.credentialLike path)
  else .ok ()

/-- `original_name.rstrip("/")` -/
def rstripSlashes (name : String) : String :=
  String.ofList (name.toList.rdropWhile fun c => c = '/')

def memberPath (info : ZipInfo) : Except SkillPackageError String := do
  let path ← (normalizePackagePath lib.nfc (rstripSlashes info.origFilename)).mapError .path
  assertSafeZipMember limits info path
  return path

def memberContent (path : String) (info : ZipInfo) : Except SkillPackageError Bytes := do
  assertNotCredentialPath lib path
  match info.content with
  | none => .error (.unreadable path)
  | some content =>
    if content.length = info.fileSize then .ok content else .error (.sizeMismatch path)

abbrev RawFiles := List (String × Bytes)

def readMember (read : Nat × RawFiles) (info : ZipInfo) :
    Except SkillPackageError (Nat × RawFiles) := do
  let path ← memberPath lib limits info
  if info.isDir then return read
  let total := read.1 + info.fileSize
  if limits.maxTotalUncompressedBytes < total then .error .totalTooLarge
  else
    let content ← memberContent lib path info
    return (total, read.2 ++ [(path, content)])

end Members

section Roots

def below (directory path : String) : Option String :=
  let lead := directory.toList ++ ['/']
  if lead.isPrefixOf path.toList && lead.length < path.toList.length then
    some (String.ofList (path.toList.drop lead.length))
  else none

def filesBelow (directory : String) (files : RawFiles) : RawFiles :=
  files.filterMap fun file => (below directory file.1).map fun path => (path, file.2)

def hasSkill (files : RawFiles) : Bool := files.any fun file => file.1 = "SKILL.md"

def normalizeArchiveRoot (files : RawFiles) : Except SkillPackageError RawFiles :=
  if hasSkill files then .ok files
  else
    match (files.map fun file => firstPart file.1).dedup with
    | [wrapper] =>
      let stripped := filesBelow wrapper files
      if hasSkill stripped then .ok stripped else .error .wrapperWithoutSkill
    | _ => .error .skillNotAtRoot

/-- `subdirectory.strip("/\\")` -/
def stripSeparators (subdirectory : String) : String :=
  let separator (c : Char) : Bool := c = '/' || c = '\\'
  String.ofList ((subdirectory.toList.dropWhile separator).rdropWhile separator)

def selectSubdirectory (nfc : Nfc) (files : RawFiles) (subdirectory : String) :
    Except SkillPackageError RawFiles := do
  let normalized ← (normalizePackagePath nfc (stripSeparators subdirectory)).mapError .path
  let selected := filesBelow normalized files
  if selected = [] then .error (.subdirectoryNotFound normalized)
  else if hasSkill selected then .ok selected
  else .error .subdirectoryWithoutSkill

end Roots

section Parser

variable (lib : Library) (limits : SkillPackageLimits)

def pathKey (path : String) : String :=
  lib.casefold (String.ofList (lib.nfc.form path.toList))

/-- `_assert_unique_paths`, with the paths seen so far under their keys. -/
def assertUniquePaths : List (String × String) → RawFiles → Except SkillPackageError Unit
  | _, [] => .ok ()
  | seen, (path, _) :: rest =>
    match seen.find? fun item => item.1 = pathKey lib path with
    | some (_, first) => .error (.collidingPaths first path)
    | none => assertUniquePaths (seen ++ [(pathKey lib path, path)]) rest

/-- The `SkillPackageFile` of a file; its validator wants the path normalised. -/
def makeFile (file : String × Bytes) : Except SkillPackageError (SkillPackageFile lib) :=
  match read : normalizePackagePath lib.nfc file.1 with
  | .error e => .error (.path e)
  | .ok path =>
    if same : path = file.1 then .ok ⟨file.1, file.2, same ▸ read⟩
    else .error (.notNormalized file.1)

def sortRaw (files : RawFiles) : RawFiles := files.insertionSort fun a b => a.1 ≤ b.1

def selectFiles (files : RawFiles) (subdirectory : Option String) :
    Except SkillPackageError RawFiles := do
  let normalized ← normalizeArchiveRoot files
  match subdirectory with
  | none => return normalized
  | some subdirectory => selectSubdirectory lib.nfc normalized subdirectory

def readZip (archive : ZipArchive) (subdirectory : Option String) :
    Except SkillPackageError (List (SkillPackageFile lib)) :=
  if archive.bytes = [] then .error .emptyArchive
  else if limits.maxArchiveBytes < archive.bytes.length then .error .archiveTooLarge
  else
    match archive.infolist with
    | none => .error .notAZip
    | some infos => do
      if limits.maxFiles < (infos.filter fun info => !info.isDir).length then .error .tooManyFiles
      else
        let read ← infos.foldlM (readMember lib limits) (0, [])
        let selected ← selectFiles lib read.2 subdirectory
        assertUniquePaths lib [] selected
        (sortRaw selected).mapM (makeFile lib)

/-- `re.fullmatch` of a letter or digit and then of so many letters, digits and other characters. -/
def isToken (others : List Char) (most : Nat) (text : String) : Bool :=
  match text.toList with
  | [] => false
  | first :: rest => first.isAlphanum && rest.length ≤ most &&
      rest.all fun c => c.isAlphanum || c ∈ others

def isIdentifier (text : String) : Bool := isToken ['.', '_', '-'] 199 text

def isVersion (text : String) : Bool := isToken ['.', '+', '_', '-'] 99 text

/-- What the texts of a package say; `notes` stands for the frontmatter, the configuration and the
release notes. -/
structure Description (N : Type) where
  manifest : SkillManifest
  dependencies : List SkillDependency
  notes : N

structure SkillPackage (lib : Library) (N : Type) where
  manifest : SkillManifest
  files : List (SkillPackageFile lib)
  packageDigest : String
  sourceDigest : String
  resolvedDependencies : List SkillDependency
  notes : N
  identifier : isIdentifier manifest.id = true
  version : isVersion manifest.version = true

/-- How the texts are read: from a manifest that was supplied, and the files by their paths. -/
abbrev Describe (N : Type) :=
  Option SkillManifest → (String → Option Bytes) → Except SkillPackageError (Description N)

def fileContent {lib : Library} (files : List (SkillPackageFile lib)) (path : String) :
    Option Bytes :=
  (files.find? fun file => file.path = path).map SkillPackageFile.content

/-- The last checks of `_parse_dependencies`. -/
def resolveDependencies : List String → List SkillDependency → Except SkillPackageError Unit
  | _, [] => .ok ()
  | seen, dependency :: rest =>
    if lib.casefold dependency.id ∈ seen then .error (.duplicateDependency dependency.id)
    else resolveDependencies (seen ++ [lib.casefold dependency.id]) rest

variable {N : Type}

def buildPackage (files : List (SkillPackageFile lib)) (sourceDigest : String)
    (described : Description N) : Except SkillPackageError (SkillPackage lib N) :=
  if identifier : isIdentifier described.manifest.id = true then
    if version : isVersion described.manifest.version = true then do
      resolveDependencies lib [] described.dependencies
      let dependencies := sortDependencies described.dependencies
      let paths := files.map fun file => lib.casefold file.path
      if ¬paths.Nodup then .error .duplicatePaths
      else if "skill.md" ∉ paths then .error .skillMdRequired
      else return {
        manifest := described.manifest
        files
        packageDigest := stablePackageDigest described.manifest files dependencies
        sourceDigest
        resolvedDependencies := dependencies
        notes := described.notes
        identifier
        version }
    else .error (.unsafeVersion described.manifest.version)
  else .error (.unsafeIdentifier described.manifest.id)

def parseZip (describe : Describe N) (archive : ZipArchive) (manifest : Option SkillManifest)
    (subdirectory : Option String) : Except SkillPackageError (SkillPackage lib N) := do
  let files ← readZip lib limits archive subdirectory
  match fileContent files "SKILL.md" with
  | none => .error .skillRequired
  | some content =>
    if limits.maxSkillMdBytes < content.length then .error .skillTooLarge
    else
      let described ← describe manifest (fileContent files)
      buildPackage lib files (lib.sha256Hex archive.bytes) described

end Parser

section Outcomes

variable {lib : Library} {limits : SkillPackageLimits} {N : Type}

theorem resolveDependencies_ok {seen : List String} {dependencies : List SkillDependency}
    (accepted : resolveDependencies lib seen dependencies = .ok ()) :
    (dependencies.map fun dependency => lib.casefold dependency.id).Nodup ∧
      ∀ dependency ∈ dependencies, lib.casefold dependency.id ∉ seen := by
  induction dependencies generalizing seen with
  | nil => exact ⟨List.nodup_nil, fun _ among => absurd among List.not_mem_nil⟩
  | cons dependency rest ih =>
    rw [resolveDependencies] at accepted
    split_ifs at accepted with fresh
    obtain ⟨distinct, apart⟩ := ih accepted
    refine ⟨?_, List.forall_mem_cons.mpr ⟨fresh, fun other among => ?_⟩⟩
    · rw [List.map_cons, List.nodup_cons]
      refine ⟨fun again => ?_, distinct⟩
      obtain ⟨other, among, same⟩ := List.mem_map.mp again
      exact apart other among (same ▸ List.mem_append_right _ (List.mem_singleton_self _))
    · exact fun earlier => apart other among (List.mem_append_left _ earlier)

structure Built (files : List (SkillPackageFile lib)) (sourceDigest : String)
    (described : Description N) (package : SkillPackage lib N) : Prop where
  manifest_eq : package.manifest = described.manifest
  files_eq : package.files = files
  digest_eq : package.packageDigest =
    stablePackageDigest package.manifest package.files package.resolvedDependencies
  source_eq : package.sourceDigest = sourceDigest
  dependencies_eq : package.resolvedDependencies = sortDependencies described.dependencies
  notes_eq : package.notes = described.notes
  unique : (files.map fun file => lib.casefold file.path).Nodup
  pinned_once : (described.dependencies.map fun dependency => lib.casefold dependency.id).Nodup

theorem buildPackage_ok {files : List (SkillPackageFile lib)} {sourceDigest : String}
    {described : Description N} {package : SkillPackage lib N}
    (built : buildPackage lib files sourceDigest described = .ok package) :
    Built files sourceDigest described package := by
  unfold buildPackage at built
  split_ifs at built with identifier version
  obtain ⟨⟨⟩, resolved, later⟩ := Json.except_bind_ok.mp built
  dsimp only at later
  split_ifs at later with unique skill
  obtain rfl := Except.ok.inj later
  exact
    { manifest_eq := rfl
      files_eq := rfl
      digest_eq := rfl
      source_eq := rfl
      dependencies_eq := rfl
      notes_eq := rfl
      unique
      pinned_once := (resolveDependencies_ok resolved).1 }

theorem parseZip_ok {describe : Describe N} {archive : ZipArchive} {manifest : Option SkillManifest}
    {subdirectory : Option String} {package : SkillPackage lib N} :
    parseZip lib limits describe archive manifest subdirectory = .ok package ↔
      ∃ files content described, readZip lib limits archive subdirectory = .ok files ∧
        fileContent files "SKILL.md" = some content ∧ content.length ≤ limits.maxSkillMdBytes ∧
        describe manifest (fileContent files) = .ok described ∧
        buildPackage lib files (lib.sha256Hex archive.bytes) described = .ok package := by
  unfold parseZip
  rw [Json.except_bind_ok]
  constructor
  · rintro ⟨files, read, later⟩
    cases found : fileContent files "SKILL.md" with
    | none =>
      rw [found] at later
      cases later
    | some content =>
      rw [found] at later
      dsimp only at later
      split_ifs at later with large
      obtain ⟨described, told, built⟩ := Json.except_bind_ok.mp later
      exact ⟨files, content, described, read, found, by omega, told, built⟩
  · rintro ⟨files, content, described, read, found, small, told, built⟩
    refine ⟨files, read, ?_⟩
    rw [found]
    dsimp only
    rw [if_neg (by omega), Json.except_bind_ok]
    exact ⟨described, told, built⟩

end Outcomes

end Taroai.SkillPackages
