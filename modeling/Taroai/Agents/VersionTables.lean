import Taroai.Agents.Versions
import Taroai.Lib.Transactions

/-! The versions of one agent in the SQL registry. A read has a connection of its own; the writes of
a call are one transaction, whose statements interleave with others under read committed isolation.
The numbers of an agent's versions are unique by a constraint. -/

namespace Taroai.Agents

structure VersionRow (J : Type) where
  status : VersionStatus := .draft
  spec : AgentVersionSpec J
deriving DecidableEq, Repr

inductive SqlSession (J : Type) where
  | idle
  | creating (spec : AgentVersionSpec J)
  | proposed (version : Nat) (spec : AgentVersionSpec J)
  | inserting (version : Nat) (spec : AgentVersionSpec J)
  | inserted (version : Nat)
  | counted (version : Nat)
  | checking (version : Nat)
  | publishing (version : Nat)
  /-- The versions that the first update has found published and not yet come to. -/
  | superseding (version : Nat) (remaining : List Nat)
  | marked (version : Nat)
  | named (version : Nat)

inductive SqlStatement (J : Type) where
  | begin (call : VersionCall J)
  | next
  | fail

/-- The row of the definition, the rows of the versions under their numbers, the numbers that were
ever inserted, and the calls. -/
structure VersionTables (J : Type) where
  definition : Cell AgentDefinition
  numbers : List Nat
  rows : Nat → Cell (VersionRow J)
  sessions : Nat → SqlSession J := fun _ => .idle

namespace VersionTables

variable {J : Type} (s : VersionTables J)

def setSession (c : Nat) (session : SqlSession J) : VersionTables J :=
  { s with sessions := fun other => if other = c then session else s.sessions other }

def setRow (n : Nat) (cell : Cell (VersionRow J)) : VersionTables J :=
  { s with rows := fun other => if other = n then cell else s.rows other }

def setDefinition (cell : Cell AgentDefinition) : VersionTables J := { s with definition := cell }

def beginCall : VersionCall J → SqlSession J
  | .createVersion spec => .creating spec
  | .restoreAsNew number => (s.rows number).committed.elim .idle fun row =>
      .creating (AgentVersion.restored ⟨number, row.status, row.spec⟩)
  | .publish number => (s.rows number).committed.elim .idle fun _ => .checking number

def publishedFor (c : Nat) : List Nat :=
  s.numbers.filter fun n => ((s.rows n).seenBy c).any fun row => row.status = .published

def superseded (row : VersionRow J) : Option (VersionRow J) :=
  if row.status = .published then some { row with status := .superseded } else none

def published (row : VersionRow J) : Option (VersionRow J) := some { row with status := .published }

def commit (c : Nat) : VersionTables J :=
  { s.setSession c .idle with
    definition := s.definition.commit c
    rows := fun n => (s.rows n).commit c }

def rollback (c : Nat) : VersionTables J :=
  { s.setSession c .idle with
    definition := s.definition.rollback c
    rows := fun n => (s.rows n).rollback c }

/-- The next statement of `add_version` or `publish`; no result while it waits. -/
def nextStatement (c : Nat) : SqlSession J → Option (VersionTables J)
  | .idle => none
  | .creating spec => some (s.setSession c
      (s.definition.committed.elim .idle fun row => .proposed (row.latestVersion + 1) spec))
  | .proposed number spec => some (s.setSession c
      (s.definition.committed.elim .idle fun row =>
        if number = row.latestVersion + 1 then .inserting number spec else .idle))
  | .inserting number spec => do
    let (new, cell) ← (s.rows number).insert c { spec := spec }
    -- the number is taken: the insertion raises, and nothing was written
    if new then
      return { (s.setRow number cell).setSession c (.inserted number) with
        numbers := number :: s.numbers }
    else return s.setSession c .idle
  | .inserted number => do
    let (_, cell) ← s.definition.update c fun row => some (row.withVersion number)
    return (s.setDefinition cell).setSession c (.counted number)
  | .counted _ => some (s.commit c)
  | .checking number => some (s.setSession c
      ((s.rows number).committed.elim .idle fun _ => .publishing number))
  | .publishing number => some (s.setSession c (.superseding number (s.publishedFor c)))
  | .superseding number (n :: remaining) => do
    let (_, cell) ← (s.rows n).update c superseded
    return (s.setRow n cell).setSession c (.superseding number remaining)
  | .superseding number [] => do
    let (_, cell) ← (s.rows number).update c published
    return (s.setRow number cell).setSession c (.marked number)
  | .marked number => do
    let (_, cell) ← s.definition.update c fun row => some (row.withPublished number)
    return (s.setDefinition cell).setSession c (.named number)
  | .named _ => some (s.commit c)

def step : Nat × SqlStatement J → Option (VersionTables J)
  | (c, .begin call) =>
    match s.sessions c with
    | .idle => some (s.setSession c (s.beginCall call))
    | _ => none
  | (c, .next) => s.nextStatement c (s.sessions c)
  | (c, .fail) => some (s.rollback c)

def Consecutive : Prop :=
  ∃ definition, s.definition.committed = some definition ∧
    ∀ n, (s.rows n).committed.isSome ↔ 1 ≤ n ∧ n ≤ definition.latestVersion

def PublishedNamed : Prop :=
  ∀ definition, s.definition.committed = some definition →
    (∀ n row, (s.rows n).committed = some row →
      (row.status = .published ↔ definition.publishedVersion = some n)) ∧
    ∀ n, definition.publishedVersion = some n → (s.rows n).committed.isSome

/-- A publication commits only if every other version that is published at this moment is one that
it has itself superseded. -/
def Uncontested : Nat × SqlStatement J → Prop
  | (c, .next) => ∀ number, s.sessions c = .named number →
      ∀ n row, n ≠ number → (s.rows n).committed = some row → row.status = .published →
        (s.rows n).holder = some c
  | _ => True

def KeepsSpecs (later : VersionTables J) : Prop :=
  ∀ n row, (s.rows n).committed = some row →
    ∃ row', (later.rows n).committed = some row' ∧ row'.spec = row.spec

/-- The agent that `create` stored. -/
def created (spec : AgentVersionSpec J) : VersionTables J where
  definition := ⟨some { latestVersion := 1 }, none⟩
  numbers := [1]
  rows n := if n = 1 then ⟨some { spec := spec }, none⟩ else .absent

end VersionTables

end Taroai.Agents
