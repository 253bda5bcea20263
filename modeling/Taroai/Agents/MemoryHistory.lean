import Taroai.Agents.Versions

/-! The history of the registry in memory, while no call writes back what another has overwritten. -/

namespace Taroai.Agents

open Machine (Along Conforms)

namespace InMemoryAgentRegistry

variable {J : Type}

/-- The definition was read before the creations since, or has the latest number. -/
def HasLatest (s : InMemoryAgentRegistry J) (definition : AgentDefinition) (adds : Nat) : Prop :=
  adds ≤ s.adds ∧ (s.adds = adds → definition.latestVersion = s.definition.latestVersion)

def SessionOk (s : InMemoryAgentRegistry J) : MemorySession J → Prop
  | .adding definition number _ since => since ≤ s.writes ∧
      (s.writes = since → definition = s.definition ∧ number = definition.latestVersion + 1)
  | .added definition number spec => definition = s.definition ∧
      number = definition.latestVersion + 1 ∧ ∃ versions, Linear versions definition ∧
        s.versions = versions ++ [{ version := number, spec := spec }]
  | .publishing definition _ adds => s.HasLatest definition adds
  | .found definition target adds =>
      s.HasLatest definition adds ∧ (target.version, target.spec) ∈ contents s.versions
  | .listed definition target versions adds since =>
      s.HasLatest definition adds ∧ (target.version, target.spec) ∈ contents s.versions ∧
        since ≤ s.writes ∧ (s.writes = since → versions = s.versions.map target.afterPublish)
  | .rewritten definition target =>
      definition.latestVersion = s.definition.latestVersion ∧
        Linear s.versions (s.definition.withPublished target.version)
  | .idle | .creating _ | .proposed _ _ | .checking _ => True

structure Inv (s : InMemoryAgentRegistry J) : Prop where
  /-- At most one call is between its writes. -/
  one : ∀ c d, (s.sessions c).Halfway → (s.sessions d).Halfway → c = d
  settled : s.Settled → Linear s.versions s.definition
  sessions : ∀ c, s.SessionOk (s.sessions c)

variable {s s' : InMemoryAgentRegistry J} {caller : Nat}

theorem mem_contents {target : AgentVersion J} {versions : List (AgentVersion J)} :
    (target.version, target.spec) ∈ contents versions ↔
      ∃ version ∈ versions, version.version = target.version ∧ version.spec = target.spec := by
  simp [contents]

theorem getVersion_eq_some {number : Nat} {target : AgentVersion J}
    (found : s.getVersion number = some target) : target ∈ s.versions :=
  List.mem_of_find?_eq_some found

theorem Inv.read (inv : s.Inv) {session : MemorySession J} (before : ¬(s.sessions caller).Halfway)
    (after : ¬session.Halfway) (ok : s.SessionOk session) : (s.setSession caller session).Inv := by
  have same : ∀ c, ((s.setSession caller session).sessions c).Halfway ↔ (s.sessions c).Halfway := by
    intro c
    by_cases own : c = caller
    · simp [setSession, own, before, after]
    · simp [setSession, own]
  refine ⟨fun c d half half' => inv.one c d ((same c).mp half) ((same d).mp half'),
    fun settled => inv.settled fun c half => settled c ((same c).mpr half), fun c => ?_⟩
  by_cases own : c = caller
  · simp only [setSession, own, if_true]
    exact ok
  · simp only [setSession, own, if_false]
    exact inv.sessions c

theorem SessionOk.later {session : MemorySession J} (ok : s.SessionOk session)
    (waits : ¬session.Halfway) (writes : s.writes < s'.writes)
    (latest : s.adds < s'.adds ∨ s'.adds = s.adds ∧
      s'.definition.latestVersion = s.definition.latestVersion)
    (kept : contents s.versions <+: contents s'.versions) : s'.SessionOk session := by
  have hasLatest : ∀ definition adds, s.HasLatest definition adds → s'.HasLatest definition adds := by
    rintro definition adds ⟨earlier, same⟩
    obtain more | ⟨equal, unchanged⟩ := latest
    · exact ⟨by omega, fun now => by omega⟩
    · exact ⟨equal ▸ earlier, fun now => unchanged ▸ same (equal ▸ now)⟩
  cases session with
  | idle => trivial
  | creating => trivial
  | proposed => trivial
  | checking => trivial
  | adding definition number spec since => exact ⟨by have := ok.1; omega, fun now => by have := ok.1; omega⟩
  | added => exact absurd trivial waits
  | publishing definition number adds => exact hasLatest definition adds ok
  | found definition target adds => exact ⟨hasLatest definition adds ok.1, kept.subset ok.2⟩
  | listed definition target versions adds since =>
    obtain ⟨read, member, earlier, -⟩ := ok
    exact ⟨hasLatest definition adds read, kept.subset member, by omega, fun now => by omega⟩
  | rewritten => exact absurd trivial waits

variable (caller) in
theorem Inv.write {session : MemorySession J} (inv : s.Inv)
    (sessions : s'.sessions = (s.setSession caller session).sessions)
    (alone : ∀ other, other ≠ caller → ¬(s.sessions other).Halfway)
    (writes : s.writes < s'.writes)
    (latest : s.adds < s'.adds ∨ s'.adds = s.adds ∧
      s'.definition.latestVersion = s.definition.latestVersion)
    (kept : contents s.versions <+: contents s'.versions)
    (settled : ¬session.Halfway → Linear s'.versions s'.definition)
    (ok : s'.SessionOk session) : s'.Inv := by
  have others : ∀ c, c ≠ caller → s'.sessions c = s.sessions c := by
    intro c other
    simp [sessions, setSession, other]
  have own : s'.sessions caller = session := by simp [sessions, setSession]
  refine ⟨fun c d half half' => ?_, fun quiet => settled (own ▸ quiet caller), fun c => ?_⟩
  · have same : ∀ c, (s'.sessions c).Halfway → c = caller := by
      intro c half
      by_contra other
      exact alone c other (others c other ▸ half)
    rw [same c half, same d half']
  · by_cases here : c = caller
    · rw [here, own]
      exact ok
    · rw [others c here]
      exact (inv.sessions c).later (alone c here) writes latest kept

theorem Inv.alone (inv : s.Inv) (half : (s.sessions caller).Halfway) :
    ∀ other, other ≠ caller → ¬(s.sessions other).Halfway :=
  fun other different there => different (inv.one other caller there half)

theorem contents_append (versions : List (AgentVersion J)) (version : AgentVersion J) :
    contents versions <+: contents (versions ++ [version]) := by
  unfold contents
  rw [List.map_append]
  exact List.prefix_append _ _

theorem beginCall_ok (call : VersionCall J) :
    ¬(s.beginCall call).Halfway ∧ s.SessionOk (s.beginCall call) := by
  cases call with
  | createVersion spec => exact ⟨not_false, trivial⟩
  | restoreAsNew number =>
    simp only [beginCall]
    cases s.getVersion number <;> exact ⟨not_false, trivial⟩
  | publish number =>
    simp only [beginCall]
    cases s.getVersion number <;> exact ⟨not_false, trivial⟩

theorem inv_step (inv : s.Inv) {label : Nat × Statement J} (current : s.Current label)
    (moved : s.step label = some s') : s'.Inv ∧ contents s.versions <+: contents s'.versions := by
  obtain ⟨caller, statement⟩ := label
  have here := inv.sessions caller
  cases statement with
  | begin call =>
    simp only [step] at moved
    split at moved
    · next idle =>
      cases moved
      obtain ⟨waits, ok⟩ := beginCall_ok (s := s) call
      exact ⟨inv.read (by simp [idle, MemorySession.Halfway]) waits ok, List.prefix_refl _⟩
    · cases moved
  | refuse =>
    simp only [step] at moved
    split at moved
    · next checking =>
      cases moved
      exact ⟨inv.read (by simp [checking, MemorySession.Halfway]) not_false trivial,
        List.prefix_refl _⟩
    · cases moved
  | next =>
    simp only [step] at moved
    simp only [Current] at current
    cases session : s.sessions caller with
    | idle =>
      rw [session] at moved
      cases moved
    | creating spec =>
      rw [session] at moved
      cases moved
      exact ⟨inv.read (by rw [session]; exact not_false) not_false trivial, List.prefix_refl _⟩
    | proposed number spec =>
      rw [session] at moved
      cases moved
      refine ⟨inv.read (by rw [session]; exact not_false) ?_ ?_, List.prefix_refl _⟩
      · split <;> exact not_false
      · split
        · next equal => exact ⟨le_refl _, fun _ => ⟨rfl, equal⟩⟩
        · trivial
    | adding definition number spec since =>
      rw [session] at moved current here
      cases moved
      obtain ⟨fresh, alone⟩ := current
      obtain ⟨rfl, rfl⟩ := here.2 fresh
      have kept := contents_append s.versions ⟨s.definition.latestVersion + 1, .draft, spec⟩
      refine ⟨?_, kept⟩
      exact inv.write caller rfl (fun other _ => alone other) (Nat.lt_succ_self _)
        (.inl (Nat.lt_succ_self _)) kept (fun quiet => absurd trivial quiet)
        ⟨rfl, rfl, s.versions, inv.settled alone, rfl⟩
    | added definition number spec =>
      rw [session] at moved here
      cases moved
      obtain ⟨rfl, rfl, versions, linear, appended⟩ := here
      have half : (s.sessions caller).Halfway := by rw [session]; trivial
      refine ⟨?_, List.prefix_refl _⟩
      exact inv.write caller rfl (inv.alone half) (Nat.lt_succ_self _)
        (.inl (Nat.lt_succ_self _)) (List.prefix_refl _) (fun _ => appended ▸ linear.concat spec) trivial
    | checking number =>
      rw [session] at moved
      cases moved
      exact ⟨inv.read (by rw [session]; exact not_false) not_false ⟨le_refl _, fun _ => rfl⟩,
        List.prefix_refl _⟩
    | publishing definition number adds =>
      rw [session] at moved here
      cases moved
      refine ⟨inv.read (by rw [session]; exact not_false) ?_ ?_, List.prefix_refl _⟩
      · cases s.getVersion number <;> exact not_false
      · cases found : s.getVersion number with
        | none => trivial
        | some target =>
          exact ⟨here, mem_contents.mpr ⟨target, getVersion_eq_some found, rfl, rfl⟩⟩
    | found definition target adds =>
      rw [session] at moved here
      cases moved
      exact ⟨inv.read (by rw [session]; exact not_false) not_false
        ⟨here.1, here.2, le_refl _, fun _ => rfl⟩, List.prefix_refl _⟩
    | listed definition target versions adds since =>
      rw [session] at moved current here
      cases moved
      obtain ⟨sameAdds, fresh, alone⟩ := current
      obtain ⟨read, member, -, listed⟩ := here
      obtain rfl := listed fresh
      have linear := inv.settled alone
      have present := mem_contents.mp member
      have same := linear.contents_publish present
      have kept : contents s.versions <+: contents (s.versions.map target.afterPublish) := by rw [same]
      refine ⟨?_, kept⟩
      refine inv.write caller rfl (fun other _ => alone other) (Nat.lt_succ_self _)
        (.inr ⟨rfl, rfl⟩) kept (fun quiet => absurd trivial quiet) ⟨read.2 sameAdds, ?_⟩
      obtain ⟨version, there, number, -⟩ := present
      exact linear.publish ⟨version, there, number⟩
    | rewritten definition target =>
      rw [session] at moved here
      cases moved
      obtain ⟨latest, linear⟩ := here
      have half : (s.sessions caller).Halfway := by rw [session]; trivial
      have equal : definition.withPublished target.version =
          s.definition.withPublished target.version := by
        simp only [AgentDefinition.withPublished, latest]
      refine ⟨?_, List.prefix_refl _⟩
      exact inv.write caller rfl (inv.alone half) (Nat.lt_succ_self _)
        (.inr ⟨rfl, latest⟩) (List.prefix_refl _)
        (fun _ => show Linear s.versions (definition.withPublished target.version) from equal ▸ linear)
        trivial

/-- A registry that just holds the agent that `create` stored. -/
def created (spec : AgentVersionSpec J) : InMemoryAgentRegistry J where
  definition := { latestVersion := 1 }
  versions := [{ version := 1, spec := spec }]

theorem inv_created (spec : AgentVersionSpec J) : (created spec).Inv where
  one _ _ half := half.elim
  settled _ := ⟨rfl, by simp [created], by simp [created]⟩
  sessions _ := trivial

/-- In a run without such writes, the history is linear whenever no call is between its writes, and
no version is lost or changed. -/
theorem linear_run (spec : AgentVersionSpec J) {labels : List (Nat × Statement J)}
    (conforms : Conforms step Current (created spec) labels) :
    Along step (fun s _ s' => (s'.Settled → Linear s'.versions s'.definition) ∧
      contents s.versions <+: contents s'.versions) (created spec) labels := by
  refine Along.of_invariant (I := Inv) ?_ (inv_created spec) conforms
  intro s label s' inv current moved
  obtain ⟨inv', kept⟩ := inv_step inv current moved
  exact ⟨inv', inv'.settled, kept⟩

end InMemoryAgentRegistry

end Taroai.Agents
