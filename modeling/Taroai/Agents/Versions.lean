import Mathlib.Data.List.Infix
import Mathlib.Data.List.Nodup
import Taroai.Lib.Machine

/-! The versions of one agent. Calls create a version, restore one as a new version, or publish
one; here they run on the registry in memory, step by step, one step for each read and each write.
The contents of a specification are parameters. -/

namespace Taroai.Agents

inductive AgentStatus where
  | draft
  | published
  | archived
deriving DecidableEq, Repr

inductive VersionStatus where
  | draft
  | published
  | superseded
deriving DecidableEq, Repr

structure AgentVersionSpec (J : Type) where
  inputSchema : J
  outputContract : J
  instructions : String
  skillBindings : List J := []
  connectorBindings : List J := []
  knowledgeBindings : List J := []
  referenceFiles : List J := []
  modelPolicy : J
  runtimeSnapshot : J
  sourceThreadId : Option String := none
  sourceRunId : Option String := none
  changeNote : String := ""
deriving DecidableEq, Repr

structure AgentVersion (J : Type) where
  version : Nat
  status : VersionStatus := .draft
  spec : AgentVersionSpec J
deriving DecidableEq, Repr

structure AgentDefinition where
  status : AgentStatus := .draft
  latestVersion : Nat
  publishedVersion : Option Nat := none
deriving DecidableEq, Repr

inductive VersionCall (J : Type) where
  | createVersion (spec : AgentVersionSpec J)
  | restoreAsNew (version : Nat)
  | publish (version : Nat)
deriving DecidableEq, Repr

variable {J : Type}

/-- The specification that `restore_as_new` stores. -/
def AgentVersion.restored (source : AgentVersion J) : AgentVersionSpec J :=
  { source.spec with changeNote := s!"Restored from version {source.version}" }

def AgentDefinition.withVersion (definition : AgentDefinition) (version : Nat) : AgentDefinition :=
  { definition with latestVersion := version }

def AgentDefinition.withPublished (definition : AgentDefinition) (version : Nat) : AgentDefinition :=
  { definition with status := .published, publishedVersion := some version }

def AgentVersion.afterPublish (target item : AgentVersion J) : AgentVersion J :=
  if item.version = target.version then { target with status := .published }
  else if item.status = .published then { item with status := .superseded }
  else item

/-- The versions are numbered from 1 to the latest, and the published one is the one that the
definition names. -/
structure Linear (versions : List (AgentVersion J)) (definition : AgentDefinition) : Prop where
  numbered : versions.map AgentVersion.version = List.range' 1 definition.latestVersion
  published : ∀ version ∈ versions,
    version.status = .published ↔ definition.publishedVersion = some version.version
  named : ∀ number, definition.publishedVersion = some number →
    ∃ version ∈ versions, version.version = number

def contents (versions : List (AgentVersion J)) : List (Nat × AgentVersionSpec J) :=
  versions.map fun version => (version.version, version.spec)

section Linear

variable {versions : List (AgentVersion J)} {definition : AgentDefinition}

theorem Linear.mem_bounds (linear : Linear versions definition) {version : AgentVersion J}
    (member : version ∈ versions) :
    1 ≤ version.version ∧ version.version ≤ definition.latestVersion := by
  have : version.version ∈ List.range' 1 definition.latestVersion :=
    linear.numbered ▸ List.mem_map_of_mem member
  rw [List.mem_range'_1] at this
  omega

theorem Linear.eq_of_number (linear : Linear versions definition) {first second : AgentVersion J}
    (member : first ∈ versions) (member' : second ∈ versions)
    (same : first.version = second.version) : first = second := by
  have distinct : (versions.map AgentVersion.version).Nodup := by
    rw [linear.numbered]
    exact List.nodup_range'
  exact List.inj_on_of_nodup_map distinct member member' same

theorem Linear.concat (linear : Linear versions definition) (spec : AgentVersionSpec J) :
    Linear (versions ++ [{ version := definition.latestVersion + 1, spec := spec }])
      (definition.withVersion (definition.latestVersion + 1)) where
  numbered := by
    rw [List.map_append, linear.numbered, AgentDefinition.withVersion, List.range'_concat]
    simp [Nat.add_comm]
  published version member := by
    obtain old | rfl := (List.mem_append.mp member).imp_right List.mem_singleton.mp
    · exact linear.published version old
    · refine iff_of_false (by simp) fun named => ?_
      obtain ⟨version, member, same⟩ := linear.named _ named
      have := (linear.mem_bounds member).2
      simp only at same
      omega
  named number named := by
    obtain ⟨version, member, same⟩ := linear.named number named
    exact ⟨version, List.mem_append_left _ member, same⟩

theorem version_afterPublish (target item : AgentVersion J) :
    (target.afterPublish item).version = item.version := by
  unfold AgentVersion.afterPublish
  split
  · next same => exact same.symm
  · split <;> rfl

theorem Linear.publish (linear : Linear versions definition) {target : AgentVersion J}
    (present : ∃ version ∈ versions, version.version = target.version) :
    Linear (versions.map target.afterPublish) (definition.withPublished target.version) where
  numbered := by
    rw [List.map_map]
    refine Eq.trans ?_ linear.numbered
    exact List.map_congr_left fun item _ => version_afterPublish target item
  published version member := by
    obtain ⟨item, member, rfl⟩ := List.mem_map.mp member
    rw [version_afterPublish]
    unfold AgentVersion.afterPublish
    by_cases same : item.version = target.version
    · simp [same, AgentDefinition.withPublished]
    · rw [if_neg same]
      refine iff_of_false ?_ fun named => same (Option.some.inj named).symm
      split
      · simp
      · assumption
  named number named := by
    obtain ⟨version, member, same⟩ := present
    refine ⟨target.afterPublish version, List.mem_map_of_mem member, ?_⟩
    rw [version_afterPublish, same]
    exact Option.some.inj named

theorem Linear.contents_publish (linear : Linear versions definition) {target : AgentVersion J}
    (present : ∃ version ∈ versions, version.version = target.version ∧ version.spec = target.spec) :
    contents (versions.map target.afterPublish) = contents versions := by
  obtain ⟨version, member, number, spec⟩ := present
  unfold contents
  rw [List.map_map]
  refine List.map_congr_left fun item here => ?_
  unfold AgentVersion.afterPublish
  rw [Function.comp_apply]
  split
  · next same =>
    obtain rfl : item = version := linear.eq_of_number here member (same.trans number.symm)
    rw [number, spec]
  · split <;> rfl

end Linear

/-- What a call on the registry in memory has behind it: what it read, and how many writes, or
writes of a creation, there had been then. -/
inductive MemorySession (J : Type) where
  | idle
  | creating (spec : AgentVersionSpec J)
  | proposed (version : Nat) (spec : AgentVersionSpec J)
  | adding (definition : AgentDefinition) (version : Nat) (spec : AgentVersionSpec J) (since : Nat)
  | added (definition : AgentDefinition) (version : Nat) (spec : AgentVersionSpec J)
  | checking (version : Nat)
  | publishing (definition : AgentDefinition) (version adds : Nat)
  | found (definition : AgentDefinition) (target : AgentVersion J) (adds : Nat)
  | listed (definition : AgentDefinition) (target : AgentVersion J)
      (rewritten : List (AgentVersion J)) (adds since : Nat)
  | rewritten (definition : AgentDefinition) (target : AgentVersion J)

namespace MemorySession

def Halfway : MemorySession J → Prop
  | added .. | rewritten .. => True
  | _ => False

instance : DecidablePred (Halfway (J := J))
  | added .. | rewritten .. => isTrue trivial
  | idle | creating .. | proposed .. | adding .. | checking .. | publishing .. | found ..
  | listed .. => isFalse not_false

end MemorySession

/-- The definition and the versions of the agent, the calls, and how many writes and writes of
creations there have been. -/
structure InMemoryAgentRegistry (J : Type) where
  definition : AgentDefinition
  versions : List (AgentVersion J)
  sessions : Nat → MemorySession J := fun _ => .idle
  writes : Nat := 0
  adds : Nat := 0

/-- `refuse`: the checks that the service makes before it publishes raise. -/
inductive Statement (J : Type) where
  | begin (call : VersionCall J)
  | next
  | refuse

namespace InMemoryAgentRegistry

variable (s : InMemoryAgentRegistry J)

def setSession (caller : Nat) (session : MemorySession J) : InMemoryAgentRegistry J :=
  { s with sessions := fun other => if other = caller then session else s.sessions other }

def getVersion (number : Nat) : Option (AgentVersion J) :=
  s.versions.find? fun item => item.version = number

/-- The first read of a call of the service; a call that finds no version raises. -/
def beginCall : VersionCall J → MemorySession J
  | .createVersion spec => .creating spec
  | .restoreAsNew number => (s.getVersion number).elim .idle fun source => .creating source.restored
  | .publish number => (s.getVersion number).elim .idle fun _ => .checking number

def append (caller : Nat) (definition : AgentDefinition) (number : Nat) (spec : AgentVersionSpec J) :
    InMemoryAgentRegistry J :=
  { s.setSession caller (.added definition number spec) with
    versions := s.versions ++ [{ version := number, spec := spec }]
    writes := s.writes + 1
    adds := s.adds + 1 }

def storeLatest (caller : Nat) (definition : AgentDefinition) (number : Nat) :
    InMemoryAgentRegistry J :=
  { s.setSession caller .idle with
    definition := definition.withVersion number
    writes := s.writes + 1
    adds := s.adds + 1 }

def storeVersions (caller : Nat) (definition : AgentDefinition) (target : AgentVersion J)
    (versions : List (AgentVersion J)) : InMemoryAgentRegistry J :=
  { s.setSession caller (.rewritten definition target) with
    versions := versions
    writes := s.writes + 1 }

def storePublished (caller : Nat) (definition : AgentDefinition) (target : AgentVersion J) :
    InMemoryAgentRegistry J :=
  { s.setSession caller .idle with
    definition := definition.withPublished target.version
    writes := s.writes + 1 }

/-- The next step of `create_version` and `add_version`, or of `publish`. -/
def nextStep (caller : Nat) : MemorySession J → Option (InMemoryAgentRegistry J)
  | .idle => none
  | .creating spec =>
    some (s.setSession caller (.proposed (s.definition.latestVersion + 1) spec))
  | .proposed number spec =>
    some (s.setSession caller (if number = s.definition.latestVersion + 1
      then .adding s.definition number spec s.writes else .idle))
  | .adding definition number spec _ => some (s.append caller definition number spec)
  | .added definition number _ => some (s.storeLatest caller definition number)
  | .checking number => some (s.setSession caller (.publishing s.definition number s.adds))
  | .publishing definition number adds =>
    some (s.setSession caller
      ((s.getVersion number).elim .idle fun target => .found definition target adds))
  | .found definition target adds =>
    some (s.setSession caller
      (.listed definition target (s.versions.map target.afterPublish) adds s.writes))
  | .listed definition target versions _ _ => some (s.storeVersions caller definition target versions)
  | .rewritten definition target => some (s.storePublished caller definition target)

def step : Nat × Statement J → Option (InMemoryAgentRegistry J)
  | (caller, .begin call) =>
    match s.sessions caller with
    | .idle => some (s.setSession caller (s.beginCall call))
    | _ => none
  | (caller, .next) => s.nextStep caller (s.sessions caller)
  | (caller, .refuse) =>
    match s.sessions caller with
    | .checking _ => some (s.setSession caller .idle)
    | _ => none

/-- A call begins to write only while no other is between its writes, and only if nobody has
written since it read what it writes back: the definition, for a new version; for a publication,
the latest number in the definition and the list of versions. -/
def Current : Nat × Statement J → Prop
  | (caller, .next) =>
    match s.sessions caller with
    | .adding _ _ _ since => s.writes = since ∧ ∀ other, ¬(s.sessions other).Halfway
    | .listed _ _ _ adds since =>
      s.adds = adds ∧ s.writes = since ∧ ∀ other, ¬(s.sessions other).Halfway
    | _ => True
  | _ => True

def Settled : Prop := ∀ caller, ¬(s.sessions caller).Halfway

end InMemoryAgentRegistry

end Taroai.Agents
