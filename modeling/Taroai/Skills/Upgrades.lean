import Taroai.Lib.Machine
import Taroai.Skills.Registry

/-! The installation of one skill in one workspace, in the SQL registry. Each read of a call has a
connection of its own, and so has its write; the calls interleave between them. Other calls of the
registry register, publish and disable packages at any point. -/

namespace Taroai.Skills

open Machine (Conforms run)
open InMemorySkillRegistry (pinned legacyPin targetVersion)

structure SkillPlace where
  tenantId : String
  workspaceId : String
  skillId : String
deriving DecidableEq, Repr

structure SkillCatalogue where
  entry : Option SkillRegistryEntry
  packages : String → Option SkillPackageRecord

inductive InstallationCall where
  | installForWorkspace (installedByUserId : String) (version packageDigest : Option String)
  | upgradeForWorkspace (version updatedByUserId : String) (expectedPackageDigest : Option String)
  | uninstallForWorkspace
  | enableForWorkspace
  | disableForWorkspace
deriving DecidableEq, Repr

/-- `rollback_for_workspace` is an upgrade. -/
def InstallationCall.rollbackForWorkspace (version rolledBackByUserId : String)
    (expectedPackageDigest : Option String) : InstallationCall :=
  .upgradeForWorkspace version rolledBackByUserId expectedPackageDigest

def InstallationCall.expectedPackageDigest : InstallationCall → Option String
  | .upgradeForWorkspace _ _ expected => expected
  | _ => none

inductive RowWrite where
  | upsert (installation : SkillInstallation)
  | setStatus (status : SkillInstallationStatus)
  | delete
deriving DecidableEq, Repr

def RowWrite.apply : RowWrite → Option SkillInstallation → Option SkillInstallation
  | .upsert installation, _ => some installation
  | .setStatus status, row => row.map fun installation => { installation with status := status }
  | .delete, _ => none

/-- A write that a call made: what it replaced and stored, and how many writes there had been when
the call read the installation. -/
structure InstallationWrite where
  call : InstallationCall
  since : Nat
  replaced : Option SkillInstallation
  stored : Option SkillInstallation
deriving DecidableEq, Repr

inductive InstallationSession where
  | idle
  | entryRead (installedByUserId : String) (version packageDigest : Option String)
      (entry : SkillRegistryEntry) (since : Nat)
  | compared (version updatedByUserId : String) (expectedPackageDigest : Option String) (since : Nat)
  | writing (call : InstallationCall) (write : RowWrite) (since : Nat)

namespace InstallationSession

def compares : InstallationSession → Option (String × Nat)
  | .compared _ _ expected since => expected.map fun digest => (digest, since)
  | .writing call _ since => call.expectedPackageDigest.map fun digest => (digest, since)
  | _ => none

end InstallationSession

structure InstallationTable where
  catalogue : SkillCatalogue
  row : Option SkillInstallation
  sessions : Nat → InstallationSession := fun _ => .idle
  writes : List InstallationWrite := []

def digestOf (row : Option SkillInstallation) : Option String :=
  row.bind SkillInstallation.packageDigest

namespace InstallationTable

inductive Statement where
  | begin (call : InstallationCall)
  | readPackage
  | write
  | fail
deriving DecidableEq, Repr

inductive Event where
  | statement (caller : Nat) (statement : Statement)
  | recatalogue (catalogue : SkillCatalogue)

variable (place : SkillPlace) (s : InstallationTable)

def setSession (caller : Nat) (session : InstallationSession) : InstallationTable :=
  { s with sessions := fun other => if other = caller then session else s.sessions other }

def beginCall (call : InstallationCall) : Except SkillError InstallationSession :=
  match call with
  | .installForWorkspace user version packageDigest =>
    match s.catalogue.entry with
    | none => .error (.notFound s!"Skill not found: {place.skillId}")
    | some entry => .ok (.entryRead user version packageDigest entry s.writes.length)
  | .upgradeForWorkspace version user expected =>
    match s.row with
    | none => .error (.notFound s!"Skill installation not found: {place.skillId}")
    | some current =>
      if expected.any fun digest => current.packageDigest ≠ some digest then
        .error (.value "workspace skill installation changed before upgrade")
      else .ok (.compared version user expected s.writes.length)
  | .uninstallForWorkspace => existing (.writing call .delete s.writes.length)
  | .enableForWorkspace => existing (.writing call (.setStatus .enabled) s.writes.length)
  | .disableForWorkspace => existing (.writing call (.setStatus .disabled) s.writes.length)
where
  existing (session : InstallationSession) : Except SkillError InstallationSession :=
    match s.row with
    | none => .error (.notFound s!"Skill installation not found: {place.skillId}")
    | some _ => .ok session

def readPackage : InstallationSession → Option (Except SkillError InstallationSession)
  | .entryRead user version packageDigest entry since =>
    let target := targetVersion version entry
    let call := .installForWorkspace user version packageDigest
    some <| match s.catalogue.packages target with
    | some record =>
      if record.status ≠ .published then
        .error (.value s!"Skill package is not published: {place.skillId}@{target}")
      else if packageDigest.any fun digest => record.package.packageDigest ≠ digest then
        .error (.value "requested package digest does not match published package")
      else .ok (.writing call (.upsert (pinned place.workspaceId user record)) since)
    | none =>
      if version.isSome ∨ packageDigest.isSome then
        .error (.notFound s!"Skill package not found: {place.skillId}@{target}")
      else if entry.status ≠ .published then
        .error (.value s!"Skill is not published: {place.skillId}")
      else .ok (.writing call (.upsert (legacyPin place.workspaceId user entry)) since)
  | .compared version user expected since =>
    some <| match s.catalogue.packages version with
    | none => .error (.notFound s!"Skill package not found: {place.skillId}@{version}")
    | some record =>
      if record.status ≠ .published then
        .error (.value s!"Skill package is not published: {place.skillId}@{version}")
      else .ok (.writing (.upgradeForWorkspace version user expected)
        (.upsert (pinned place.workspaceId user record)) since)
  | _ => none

def store (caller : Nat) (call : InstallationCall) (write : RowWrite) (since : Nat) :
    InstallationTable :=
  { s.setSession caller .idle with
    row := write.apply s.row
    writes := s.writes ++ [⟨call, since, s.row, write.apply s.row⟩] }

/-- One event; no result where it is not the caller's next. A call that raises is over. -/
def step : Event → Option InstallationTable
  | .statement caller (.begin call) =>
    match s.sessions caller with
    | .idle => some (s.setSession caller ((s.beginCall place call).toOption.getD .idle))
    | _ => none
  | .statement caller .readPackage => do
    let answer ← s.readPackage place (s.sessions caller)
    return s.setSession caller (answer.toOption.getD .idle)
  | .statement caller .write =>
    match s.sessions caller with
    | .writing call write since => some (s.store caller call write since)
    | _ => none
  | .statement caller .fail => some (s.setSession caller .idle)
  | .recatalogue catalogue => some { s with catalogue := catalogue }

/-- No write leaves a digest other than one that another caller has compared and not yet acted on. -/
def Unovertaken : Event → Prop
  | .statement caller .write => ∀ call write since, s.sessions caller = .writing call write since →
      ∀ other digest n, other ≠ caller → (s.sessions other).compares = some (digest, n) →
        digestOf (write.apply s.row) = some digest
  | _ => True

end InstallationTable

/-- Each write of an upgrade that was given a digest replaced an installation of that digest; and
what was written since its comparison left this digest in place. -/
structure CompareAndSet (writes : List InstallationWrite) : Prop where
  replaced : ∀ write ∈ writes, ∀ digest, write.call.expectedPackageDigest = some digest →
    digestOf write.replaced = some digest
  overlapping : ∀ (i j : Nat) (first second : InstallationWrite), writes[i]? = some first → writes[j]? = some second →
    second.since ≤ i → i < j → ∀ digest, second.call.expectedPackageDigest = some digest →
      digestOf first.stored = some digest

namespace InstallationTable

structure Held (s : InstallationTable) : Prop where
  row : ∀ caller digest since, (s.sessions caller).compares = some (digest, since) →
    digestOf s.row = some digest
  written : ∀ caller digest since, (s.sessions caller).compares = some (digest, since) →
    ∀ (i : Nat) (write : InstallationWrite), since ≤ i → s.writes[i]? = some write →
      digestOf write.stored = some digest
  writes : CompareAndSet s.writes

variable {place : SkillPlace} {s s' : InstallationTable}

theorem compares_of_begin {call : InstallationCall} {session : InstallationSession}
    {digest : String} {since : Nat} (started : s.beginCall place call = .ok session)
    (compares : session.compares = some (digest, since)) :
    digestOf s.row = some digest ∧ since = s.writes.length := by
  have other : ∀ call write, call.expectedPackageDigest = none →
      beginCall.existing place s (.writing call write s.writes.length) = .ok session → False := by
    intro call write none_given existing
    unfold beginCall.existing at existing
    split at existing <;> cases existing
    simp [InstallationSession.compares, none_given] at compares
  cases call with
  | installForWorkspace user version packageDigest =>
    simp only [beginCall] at started
    split at started <;> cases started
    cases compares
  | upgradeForWorkspace version user expected =>
    simp only [beginCall] at started
    split at started
    · cases started
    · next current found =>
      split at started
      · cases started
      · next same =>
        cases started
        cases expected with
        | none => cases compares
        | some given =>
          cases compares
          simp only [Option.any_some, decide_eq_true_eq, not_not] at same
          exact ⟨by rw [found]; exact same, rfl⟩
  | uninstallForWorkspace => exact (other _ _ rfl started).elim
  | enableForWorkspace => exact (other _ _ rfl started).elim
  | disableForWorkspace => exact (other _ _ rfl started).elim

theorem compares_of_readPackage {session later : InstallationSession}
    (read : s.readPackage place session = some (.ok later)) :
    later.compares = session.compares := by
  cases session with
  | entryRead user version packageDigest entry since =>
    simp only [readPackage, Option.some.injEq] at read
    split at read
    · split at read
      · cases read
      · split at read <;> cases read
        rfl
    · split at read
      · cases read
      · split at read <;> cases read
        rfl
  | compared version user expected since =>
    simp only [readPackage, Option.some.injEq] at read
    split at read
    · cases read
    · split at read <;> cases read
      rfl
  | idle => cases read
  | writing => cases read

/-- An event that writes nothing keeps the invariant if whoever compares has a fresh comparison or
the one it had. -/
theorem Held.quiet (held : s.Held) (row : s'.row = s.row) (writes : s'.writes = s.writes)
    (sessions : ∀ caller digest since, (s'.sessions caller).compares = some (digest, since) →
      (s.sessions caller).compares = some (digest, since) ∨
        digestOf s.row = some digest ∧ since = s.writes.length) : s'.Held where
  row caller digest since compares := by
    rw [row]
    obtain old | ⟨here, -⟩ := sessions caller digest since compares
    · exact held.row caller digest since old
    · exact here
  written caller digest since compares i write later found := by
    rw [writes] at found
    obtain old | ⟨-, rfl⟩ := sessions caller digest since compares
    · exact held.written caller digest since old i write later found
    · have := (List.getElem?_eq_some_iff.mp found).1
      omega
  writes := writes ▸ held.writes

theorem compares_setSession {caller other : Nat} {session : InstallationSession} {digest : String}
    {since : Nat} (compares : ((s.setSession caller session).sessions other).compares =
      some (digest, since)) :
    (s.sessions other).compares = some (digest, since) ∨
      other = caller ∧ session.compares = some (digest, since) := by
  unfold setSession at compares
  dsimp only at compares
  split at compares
  · next same => exact .inr ⟨same, compares⟩
  · exact .inl compares

theorem Held.idle (held : s.Held) (caller : Nat) : (s.setSession caller .idle).Held := by
  refine held.quiet rfl rfl fun other digest since compares => .inl ?_
  obtain old | ⟨-, impossible⟩ := compares_setSession compares
  · exact old
  · cases impossible

theorem step_write {caller : Nat} :
    s.step place (.statement caller .write) = some s' ↔ ∃ call write since,
      s.sessions caller = .writing call write since ∧ s.store caller call write since = s' := by
  simp only [step]
  cases s.sessions caller <;> simp

theorem getElem?_snoc {α : Type*} {xs : List α} {x y : α} {i : Nat}
    (found : (xs ++ [x])[i]? = some y) : xs[i]? = some y ∨ i = xs.length ∧ y = x := by
  rw [List.getElem?_append] at found
  split at found
  · exact .inl found
  · next past =>
    obtain ⟨inside, same⟩ := List.getElem?_eq_some_iff.mp found
    rw [List.length_singleton] at inside
    simp only [List.getElem_singleton] at same
    exact .inr ⟨by omega, same.symm⟩

theorem Held.store (held : s.Held) {caller since : Nat} {call : InstallationCall} {write : RowWrite}
    (unovertaken : s.Unovertaken (.statement caller .write))
    (writing : s.sessions caller = .writing call write since) :
    (s.store caller call write since).Held := by
  have waits : ∀ other digest n,
      ((s.store caller call write since).sessions other).compares = some (digest, n) →
      (s.sessions other).compares = some (digest, n) ∧
        digestOf (write.apply s.row) = some digest := by
    intro other digest n compares
    have different : other ≠ caller := by
      rintro rfl
      simp [InstallationTable.store, setSession, InstallationSession.compares] at compares
    obtain old | ⟨same, -⟩ := compares_setSession compares
    · exact ⟨old, unovertaken call write since writing other digest n different old⟩
    · exact absurd same different
  have own : ∀ digest, call.expectedPackageDigest = some digest →
      (s.sessions caller).compares = some (digest, since) := by
    intro digest expected
    rw [writing, InstallationSession.compares, expected]
    rfl
  refine ⟨fun other digest n compares => (waits other digest n compares).2, ?_, ?_, ?_⟩
  · intro other digest n compares i done later found
    obtain ⟨old, kept⟩ := waits other digest n compares
    obtain earlier | ⟨-, rfl⟩ := getElem?_snoc found
    · exact held.written other digest n old i done later earlier
    · exact kept
  · intro done member digest expected
    obtain old | rfl := (List.mem_append.mp member).imp_right List.mem_singleton.mp
    · exact held.writes.replaced done old digest expected
    · exact held.row caller digest since (own digest expected)
  · intro i j first second at_i at_j after before digest expected
    have first_old : j ≤ s.writes.length → s.writes[i]? = some first := by
      intro bound
      obtain old | ⟨last, -⟩ := getElem?_snoc at_i
      · exact old
      · omega
    obtain old | ⟨last, rfl⟩ := getElem?_snoc at_j
    · have bound := (List.getElem?_eq_some_iff.mp old).1
      exact held.writes.overlapping i j first second (first_old bound.le) old after before digest
        expected
    · exact held.written caller digest since (own digest expected) i first after (first_old last.le)

theorem held_step (held : s.Held) {event : Event} (unovertaken : s.Unovertaken event)
    (moved : s.step place event = some s') : s'.Held := by
  cases event with
  | statement caller statement =>
    cases statement with
    | begin call =>
      simp only [step] at moved
      split at moved <;> cases moved
      cases started : s.beginCall place call with
      | error raised => exact held.idle caller
      | ok session =>
        refine held.quiet rfl rfl fun other digest since compares => ?_
        obtain old | ⟨-, new⟩ := compares_setSession compares
        · exact .inl old
        · exact .inr (compares_of_begin started new)
    | readPackage =>
      simp only [step, Option.bind_eq_bind, Option.bind_eq_some_iff] at moved
      obtain ⟨answer, read, later⟩ := moved
      cases later
      cases answer with
      | error raised => exact held.idle caller
      | ok session =>
        refine held.quiet rfl rfl fun other digest since compares => .inl ?_
        obtain old | ⟨rfl, new⟩ := compares_setSession compares
        · exact old
        · rwa [← compares_of_readPackage read]
    | write =>
      obtain ⟨call, write, since, writing, rfl⟩ := step_write.mp moved
      exact held.store unovertaken writing
    | fail =>
      cases moved
      exact held.idle caller
  | recatalogue catalogue =>
    cases moved
    exact held.quiet rfl rfl fun other digest since compares => .inl compares

def fresh (catalogue : SkillCatalogue) (row : Option SkillInstallation) : InstallationTable :=
  { catalogue := catalogue, row := row }

theorem held_fresh (catalogue : SkillCatalogue) (row : Option SkillInstallation) :
    (fresh catalogue row).Held where
  row _ _ _ compares := nomatch compares
  written _ _ _ compares := nomatch compares
  writes := ⟨fun _ member => (nomatch member), fun _ _ _ _ found => nomatch found⟩

theorem overtaken_lost {caller other : Nat} {digest : String} {call upgrade : InstallationCall}
    {write own : RowWrite} {since n : Nat} (different : other ≠ caller)
    (writing : s.sessions caller = .writing call write since)
    (waiting : s.sessions other = .writing upgrade own n)
    (expected : upgrade.expectedPackageDigest = some digest)
    (taken : digestOf (write.apply s.row) ≠ some digest) :
    ∃ later, run (step place) s [.statement caller .write, .statement other .write] = some later ∧
      ¬CompareAndSet later.writes := by
  have still : (s.store caller call write since).sessions other = .writing upgrade own n := by
    simp only [store, setSession, if_neg different, waiting]
  refine ⟨(s.store caller call write since).store other upgrade own n, ?_, fun holds => taken ?_⟩
  · rw [Machine.run_cons, step_write.mpr ⟨call, write, since, writing, rfl⟩, Option.bind_some,
      Machine.run_cons, step_write.mpr ⟨upgrade, own, n, still, rfl⟩]
    rfl
  · exact holds.replaced _ (List.mem_append_right _ List.mem_cons_self) digest expected

end InstallationTable

open InstallationTable

/-- Whenever no write takes away a digest that another caller has compared and not yet acted on,
upgrades compare and set; and where one does, the claim fails as soon as that caller writes. -/
theorem upgrades_compare_and_set (place : SkillPlace) (catalogue : SkillCatalogue)
    (row : Option SkillInstallation) (events : List Event) :
    (Conforms (step place) Unovertaken (fresh catalogue row) events →
      ∀ s, run (step place) (fresh catalogue row) events = some s → CompareAndSet s.writes) ∧
    ∀ s, run (step place) (fresh catalogue row) events = some s →
      ∀ caller other call write since upgrade own n digest, other ≠ caller →
        s.sessions caller = .writing call write since → s.sessions other = .writing upgrade own n →
        upgrade.expectedPackageDigest = some digest → digestOf (write.apply s.row) ≠ some digest →
        ∃ later, run (step place) s [.statement caller .write, .statement other .write] = some later ∧
          ¬CompareAndSet later.writes := by
  constructor
  · intro conforms s ran
    exact (Machine.invariant_conforms (fun _ _ _ held unovertaken moved =>
      held_step held unovertaken moved) (held_fresh catalogue row) conforms ran).writes
  · intro s _ caller other call write since upgrade own n digest different writing waiting expected
      taken
    exact overtaken_lost different writing waiting expected taken

def reportRecord (version : String) : SkillPackageRecord where
  tenantId := "acme"
  package :=
    { manifest := { id := "report-writer", version := version }
      packageDigest := version
      sourceDigest := version }
  status := .published
  createdByUserId := "ada"

def reportPlace : SkillPlace := ⟨"acme", "finance", "report-writer"⟩

def reportTable : InstallationTable :=
  fresh ⟨none, fun version => some (reportRecord version)⟩
    (some (pinned "finance" "ada" (reportRecord "1.0.0")))

/-- Two upgrades from one digest both succeed, and an upgrade brings back a skill that was
uninstalled since it compared. -/
theorem upgrades_lost :
    (∃ s, run (step reportPlace) reportTable
        [.statement 0 (.begin (.upgradeForWorkspace "2.0.0" "ada" (some "1.0.0"))),
          .statement 1 (.begin (.upgradeForWorkspace "3.0.0" "bob" (some "1.0.0"))),
          .statement 0 .readPackage, .statement 1 .readPackage,
          .statement 0 .write, .statement 1 .write] = some s ∧ ¬CompareAndSet s.writes) ∧
    (∃ s, run (step reportPlace) reportTable
        [.statement 0 (.begin (.upgradeForWorkspace "2.0.0" "ada" (some "1.0.0"))),
          .statement 1 (.begin .uninstallForWorkspace), .statement 1 .write,
          .statement 0 .readPackage, .statement 0 .write] = some s ∧ ¬CompareAndSet s.writes) := by
  have second_write (a b : InstallationWrite) (digest : String)
      (expected : b.call.expectedPackageDigest = some digest)
      (lost : digestOf b.replaced ≠ some digest) : ¬CompareAndSet [a, b] := fun holds =>
    lost (holds.replaced b (List.mem_cons_of_mem a List.mem_cons_self) digest expected)
  exact ⟨⟨_, rfl, second_write _ _ "1.0.0" rfl (by decide)⟩,
    ⟨_, rfl, second_write _ _ "1.0.0" rfl (by decide)⟩⟩

end Taroai.Skills
