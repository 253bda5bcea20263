import Taroai.Agents.MemoryHistory
import Taroai.Agents.VersionTables

/-! The history of an agent's versions in the SQL registry, and in both registries. Numbers and
specifications hold under every interleaving of transactions; two publications that do not see each
other both stay published. -/

namespace Taroai.Agents

open Machine (Along Conforms)

namespace VersionTables

variable {J : Type}

def RowWritten (committed : Option (VersionRow J)) (n : Nat) (row : VersionRow J) :
    SqlSession J → Prop
  | .inserted number | .counted number => n = number ∧ committed = none ∧ row.status = .draft
  | .superseding _ _ => row.status = .superseded ∧ committed.map VersionRow.spec = some row.spec
  | .marked number | .named number =>
    (row.status = .published ↔ n = number) ∧ committed.map VersionRow.spec = some row.spec
  | _ => False

def DefinitionWritten (definition later : AgentDefinition) : SqlSession J → Prop
  | .counted number => later = definition.withVersion number
  | .named number => later = definition.withPublished number
  | _ => False

def SessionOk (s : VersionTables J) (definition : AgentDefinition) (c : Nat) : SqlSession J → Prop
  | .proposed number _ | .inserting number _ =>
    1 ≤ number ∧ number ≤ definition.latestVersion + 1
  | .inserted number => (1 ≤ number ∧ number ≤ definition.latestVersion + 1) ∧
      (s.rows number).holder = some c
  | .counted number => (1 ≤ number ∧ number ≤ definition.latestVersion + 1) ∧
      (s.rows number).holder = some c ∧ s.definition.holder = some c
  | .checking number | .publishing number | .superseding number _ =>
    (s.rows number).committed.isSome
  | .marked number => (s.rows number).committed.isSome ∧ (s.rows number).holder = some c
  | .named number => (s.rows number).committed.isSome ∧ (s.rows number).holder = some c ∧
      s.definition.holder = some c
  | .idle | .creating _ => True

structure Inv (s : VersionTables J) (definition : AgentDefinition) : Prop where
  committed : s.definition.committed = some definition
  numbered : ∀ n, (s.rows n).committed.isSome ↔ 1 ≤ n ∧ n ≤ definition.latestVersion
  rows : ∀ n c row, (s.rows n).pending = some (c, row) →
    RowWritten (s.rows n).committed n row (s.sessions c)
  definitions : ∀ c later, s.definition.pending = some (c, later) →
    DefinitionWritten definition later (s.sessions c)
  sessions : ∀ c, s.SessionOk definition c (s.sessions c)

variable {s s' : VersionTables J} {definition : AgentDefinition} {c : Nat}

theorem SessionOk.mono {later : AgentDefinition} {session : SqlSession J}
    (ok : s.SessionOk definition c session)
    (latest : definition.latestVersion ≤ later.latestVersion)
    (present : ∀ n, (s.rows n).committed.isSome → (s'.rows n).committed.isSome)
    (held : ∀ n, (s.rows n).holder = some c → (s'.rows n).holder = some c)
    (heldDefinition : s.definition.holder = some c → s'.definition.holder = some c) :
    s'.SessionOk later c session := by
  cases session with
  | idle => trivial
  | creating => trivial
  | proposed number spec => exact ⟨ok.1, ok.2.trans (Nat.succ_le_succ latest)⟩
  | inserting number spec => exact ⟨ok.1, ok.2.trans (Nat.succ_le_succ latest)⟩
  | inserted number => exact ⟨⟨ok.1.1, ok.1.2.trans (Nat.succ_le_succ latest)⟩, held number ok.2⟩
  | counted number =>
    exact ⟨⟨ok.1.1, ok.1.2.trans (Nat.succ_le_succ latest)⟩, held number ok.2.1,
      heldDefinition ok.2.2⟩
  | checking number => exact present number ok
  | publishing number => exact present number ok
  | superseding number remaining => exact present number ok
  | marked number => exact ⟨present number ok.1, held number ok.2⟩
  | named number => exact ⟨present number ok.1, held number ok.2.1, heldDefinition ok.2.2⟩

/-- A statement that commits nothing: what others have written stays, and the call has written what
its session says. -/
theorem Inv.statement (inv : s.Inv definition)
    (sessions : ∀ other, other ≠ c → s'.sessions other = s.sessions other)
    (rows : ∀ n, (s'.rows n).committed = (s.rows n).committed)
    (same : s'.definition.committed = s.definition.committed)
    (others : ∀ n other row, other ≠ c →
      ((s'.rows n).pending = some (other, row) ↔ (s.rows n).pending = some (other, row)))
    (othersDefinition : ∀ other later, other ≠ c →
      (s'.definition.pending = some (other, later) ↔ s.definition.pending = some (other, later)))
    (own : ∀ n row, (s'.rows n).pending = some (c, row) →
      RowWritten (s.rows n).committed n row (s'.sessions c))
    (ownDefinition : ∀ later, s'.definition.pending = some (c, later) →
      DefinitionWritten definition later (s'.sessions c))
    (ok : s'.SessionOk definition c (s'.sessions c)) : s'.Inv definition where
  committed := same.trans inv.committed
  numbered n := rows n ▸ inv.numbered n
  rows n other row open_ := by
    rw [rows]
    by_cases mine : other = c
    · rw [mine] at open_ ⊢
      exact own n row open_
    · rw [sessions other mine]
      exact inv.rows n other row ((others n other row mine).mp open_)
  definitions other later open_ := by
    by_cases mine : other = c
    · rw [mine] at open_ ⊢
      exact ownDefinition later open_
    · rw [sessions other mine]
      exact inv.definitions other later ((othersDefinition other later mine).mp open_)
  sessions other := by
    by_cases mine : other = c
    · rw [mine]
      exact ok
    · rw [sessions other mine]
      refine (inv.sessions other).mono (le_refl _) (fun n here => rows n ▸ here) ?_ ?_
      · intro n held
        obtain ⟨row, open_⟩ := Cell.pending_of_holder held
        rw [Cell.holder, (others n other row mine).mpr open_]
        rfl
      · intro held
        obtain ⟨later, open_⟩ := Cell.pending_of_holder held
        rw [Cell.holder, (othersDefinition other later mine).mpr open_]
        rfl

theorem sessions_setSession {session : SqlSession J} (other : Nat) (different : other ≠ c) :
    (s.setSession c session).sessions other = s.sessions other := if_neg different

theorem sessions_setSession_self {session : SqlSession J} :
    (s.setSession c session).sessions c = session := if_pos rfl

def Reading : SqlSession J → Prop
  | .idle | .creating _ | .proposed _ _ | .inserting _ _ | .checking _ | .publishing _ => True
  | _ => False

theorem Inv.no_row (inv : s.Inv definition) (reading : Reading (s.sessions c)) (n : Nat)
    (row : VersionRow J) : (s.rows n).pending ≠ some (c, row) := by
  intro open_
  have written := inv.rows n c row open_
  revert reading written
  cases s.sessions c <;> simp [Reading, RowWritten]

theorem Inv.no_definition (inv : s.Inv definition) (reading : Reading (s.sessions c))
    (later : AgentDefinition) : s.definition.pending ≠ some (c, later) := by
  intro open_
  have written := inv.definitions c later open_
  revert reading written
  cases s.sessions c <;> simp [Reading, DefinitionWritten]

theorem Inv.read (inv : s.Inv definition) {session : SqlSession J} (reading : Reading (s.sessions c))
    (ok : s.SessionOk definition c session) : (s.setSession c session).Inv definition := by
  refine inv.statement (c := c) sessions_setSession (fun _ => rfl) rfl (fun _ _ _ _ => Iff.rfl)
    (fun _ _ _ => Iff.rfl) (fun n row open_ => ?_) (fun later open_ => ?_) ?_
  · exact absurd open_ (inv.no_row reading n row)
  · exact absurd open_ (inv.no_definition reading later)
  · rw [sessions_setSession_self]
    exact ok.mono (le_refl _) (fun _ => id) (fun _ => id) id

theorem Inv.writeRow (inv : s.Inv definition) (session : SqlSession J) (number : Nat)
    (row : VersionRow J) (numbers : List Nat)
    (free : (s.rows number).holder = none ∨ (s.rows number).holder = some c)
    (written : RowWritten (s.rows number).committed number row session)
    (earlier : ∀ n row, n ≠ number → (s.rows n).pending = some (c, row) →
      RowWritten (s.rows n).committed n row session)
    (earlierDefinition : ∀ later, s.definition.pending = some (c, later) →
      DefinitionWritten definition later session)
    (ok : SessionOk { (s.setRow number ((s.rows number).write c row)).setSession c session with
      numbers := numbers } definition c session) :
    Inv { (s.setRow number ((s.rows number).write c row)).setSession c session with
      numbers := numbers } definition := by
  refine inv.statement (c := c) (fun other different => if_neg different) ?_ rfl ?_
    (fun _ _ _ => Iff.rfl) ?_ ?_ ?_
  · intro n
    simp only [setSession, setRow]
    split
    · next same => rw [same, Cell.committed_write]
    · rfl
  · intro n other row different
    simp only [setSession, setRow]
    split
    · next same =>
      rw [same]
      refine iff_of_false (fun open_ => ?_) fun open_ => ?_
      · cases open_
        exact different rfl
      · have held : (s.rows number).holder = some other := by rw [Cell.holder, open_]; rfl
        rw [held] at free
        simp [different] at free
    · rfl
  · intro n row' open_
    rw [show (_ : VersionTables J).sessions c = session from if_pos rfl]
    simp only [setSession, setRow] at open_
    split at open_
    · next same =>
      cases open_
      rw [same]
      exact written
    · next other => exact earlier n row' other open_
  · intro later open_
    rw [show (_ : VersionTables J).sessions c = session from if_pos rfl]
    exact earlierDefinition later open_
  · rw [show (_ : VersionTables J).sessions c = session from if_pos rfl]
    exact ok

theorem Inv.writeDefinition (inv : s.Inv definition) (session : SqlSession J)
    (later : AgentDefinition) (free : s.definition.holder = none ∨ s.definition.holder = some c)
    (written : DefinitionWritten definition later session)
    (earlier : ∀ n row, (s.rows n).pending = some (c, row) →
      RowWritten (s.rows n).committed n row session)
    (ok : ((s.setDefinition (s.definition.write c later)).setSession c session).SessionOk
      definition c session) :
    ((s.setDefinition (s.definition.write c later)).setSession c session).Inv definition := by
  refine inv.statement (c := c) (fun other different => if_neg different) (fun _ => rfl)
    Cell.committed_write (fun _ _ _ _ => Iff.rfl) ?_ ?_ ?_ ?_
  · intro other after different
    refine iff_of_false (fun open_ => ?_) fun open_ => ?_
    · cases open_
      exact different rfl
    · have held : s.definition.holder = some other := by rw [Cell.holder, open_]; rfl
      rw [held] at free
      simp [different] at free
  · intro n row open_
    rw [sessions_setSession_self]
    exact earlier n row open_
  · intro after open_
    rw [sessions_setSession_self]
    cases open_
    exact written
  · rw [sessions_setSession_self]
    exact ok

theorem Inv.rollback (inv : s.Inv definition) (c : Nat) : (s.rollback c).Inv definition := by
  have others {β : Type} (cell : Cell β) (other : Nat) (value : β) (different : other ≠ c) :
      (cell.rollback c).pending = some (other, value) ↔ cell.pending = some (other, value) := by
    refine ⟨Cell.pending_rollback, fun open_ => ?_⟩
    rw [Cell.rollback_of_other, open_]
    rw [Cell.holder, open_]
    simpa using different
  have mine {β : Type} (cell : Cell β) (value : β) :
      (cell.rollback c).pending ≠ some (c, value) := by
    intro open_
    have held : (cell.rollback c).holder = some c := by rw [Cell.holder, open_]; rfl
    rw [Cell.holder_rollback] at held
    split at held
    · cases held
    · contradiction
  refine inv.statement (c := c) (fun other different => if_neg different)
    (fun n => Cell.committed_rollback _ _) (Cell.committed_rollback _ _)
    (fun n other row => others _ other row) (fun other later => others _ other later)
    (fun n row open_ => absurd open_ (mine _ row)) (fun later open_ => absurd open_ (mine _ later)) ?_
  rw [show (s.rollback c).sessions c = .idle from if_pos rfl]
  trivial

theorem Inv.commit (inv : s.Inv definition) {later : AgentDefinition}
    (held : s.definition.pending = some (c, later))
    (latest : definition.latestVersion ≤ later.latestVersion)
    (numbered : ∀ n, ((s.rows n).commit c).committed.isSome ↔ 1 ≤ n ∧ n ≤ later.latestVersion) :
    (s.commit c).Inv later where
  committed := congrArg Cell.committed (Cell.commit_of_pending held)
  numbered := numbered
  rows n other row open_ := by
    obtain ⟨before, different⟩ := Cell.pending_commit open_
    have unheld : (s.rows n).holder ≠ some c := by
      rw [Cell.holder, before]
      simpa using different
    rw [show (s.commit c).rows n = (s.rows n).commit c from rfl, Cell.commit_of_other unheld,
      show (s.commit c).sessions other = s.sessions other from if_neg different]
    exact inv.rows n other row before
  definitions other after open_ := by
    rw [show (s.commit c).definition = s.definition.commit c from rfl,
      Cell.commit_of_pending held] at open_
    cases open_
  sessions other := by
    by_cases mine : other = c
    · rw [mine, show (s.commit c).sessions c = .idle from if_pos rfl]
      trivial
    · rw [show (s.commit c).sessions other = s.sessions other from if_neg mine]
      refine (inv.sessions other).mono latest ?_ ?_ ?_
      · intro n here
        obtain same | ⟨value, -, stored⟩ := Cell.committed_commit (s.rows n) c
        · exact (congrArg Option.isSome same).trans here
        · exact congrArg Option.isSome stored
      · intro n mine'
        change ((s.rows n).commit c).holder = some other
        rw [Cell.holder_commit, mine', if_neg (by simpa using mine)]
      · intro mine'
        rw [Cell.holder, held] at mine'
        exact absurd (Option.some.inj mine').symm mine

inductive Effect (s : VersionTables J) (definition : AgentDefinition) (c : Nat)
    (statement : SqlStatement J) (s' : VersionTables J) : Prop where
  | uncommitted (inv : s'.Inv definition)
      (rows : ∀ n, (s'.rows n).committed = (s.rows n).committed)
      (same : s'.definition.committed = s.definition.committed)
      (unnamed : statement = .next → ∀ number, s.sessions c ≠ .named number)
  | counted (number : Nat) (session : s.sessions c = .counted number) (result : s' = s.commit c)
  | named (number : Nat) (next : statement = .next) (session : s.sessions c = .named number)
      (result : s' = s.commit c)

theorem setRow_committed {number n : Nat} {row : VersionRow J} :
    ((s.setRow number ((s.rows number).write c row)).rows n).committed = (s.rows n).committed := by
  simp only [setRow]
  split
  · next same => rw [same, Cell.committed_write]
  · rfl

theorem setRow_self (number : Nat) : s.setRow number (s.rows number) = s := by
  have rows : (fun other => if other = number then s.rows number else s.rows other) = s.rows := by
    funext other
    split
    · next same => rw [same]
    · rfl
  unfold setRow
  rw [rows]

theorem beginCall_ok (call : VersionCall J) :
    s.SessionOk definition c (s.beginCall call) := by
  cases call with
  | createVersion spec => trivial
  | restoreAsNew number =>
    simp only [beginCall]
    cases (s.rows number).committed <;> trivial
  | publish number =>
    simp only [beginCall]
    cases present : (s.rows number).committed with
    | none => trivial
    | some row =>
      change (s.rows number).committed.isSome
      rw [present]
      rfl

theorem Inv.spec_of_seen (inv : s.Inv definition) {number n : Nat} {row : VersionRow J}
    {remaining : List Nat} (session : s.sessions c = .superseding number remaining)
    (seen : (s.rows n).seenBy c = some row) :
    (s.rows n).committed.map VersionRow.spec = some row.spec := by
  unfold Cell.seenBy at seen
  split at seen
  · next writer value open_ =>
    split at seen
    · next same =>
      cases seen
      subst same
      have written := inv.rows n writer row open_
      rw [session] at written
      exact written.2
    · rw [seen]
      rfl
  · rw [seen]
    rfl

theorem Inv.update_definition (inv : s.Inv definition) {change : AgentDefinition → AgentDefinition}
    {answer : Option AgentDefinition} {cell : Cell AgentDefinition}
    (unwritten : ∀ later, s.definition.pending ≠ some (c, later))
    (ran : s.definition.update c (fun row => some (change row)) = some (answer, cell)) :
    cell = s.definition.write c (change definition) ∧
      (s.definition.holder = none ∨ s.definition.holder = some c) := by
  have seen : s.definition.seenBy c = some definition := by
    unfold Cell.seenBy
    split
    · next writer value open_ =>
      have other : writer ≠ c := by
        rintro rfl
        exact unwritten value open_
      rw [if_neg other, inv.committed]
    · exact inv.committed
  obtain ⟨-, -, missed⟩ | ⟨before, later, found, becomes, -, rfl, free⟩ := Cell.update_cases ran
  · rw [seen] at missed
    cases missed
  · obtain rfl : definition = before := Option.some.inj (seen.symm.trans found)
    cases becomes
    exact ⟨rfl, free⟩

theorem seenBy_isSome {n : Nat} (c : Nat) (present : (s.rows n).committed.isSome) :
    ∃ row, (s.rows n).seenBy c = some row := by
  obtain ⟨row, stored⟩ := Option.isSome_iff_exists.mp present
  unfold Cell.seenBy
  split
  · split
    · exact ⟨_, rfl⟩
    · exact ⟨row, stored⟩
  · exact ⟨row, stored⟩

theorem effect_of_step (inv : s.Inv definition) {statement : SqlStatement J}
    (moved : s.step (c, statement) = some s') : Effect s definition c statement s' := by
  have here := inv.sessions c
  cases statement with
  | begin call =>
    simp only [step] at moved
    split at moved
    · next idle =>
      cases moved
      exact .uncommitted (inv.read (by rw [idle]; trivial) (beginCall_ok call)) (fun _ => rfl) rfl
        (fun next => nomatch next)
    · cases moved
  | fail =>
    cases moved
    exact .uncommitted (inv.rollback c) (fun n => Cell.committed_rollback _ _)
      (Cell.committed_rollback _ _) (fun next => nomatch next)
  | next =>
    simp only [step] at moved
    cases session : s.sessions c with
    | idle =>
      rw [session] at moved
      cases moved
    | creating spec =>
      rw [session] at moved
      cases moved
      have unnamed : SqlStatement.next (J := J) = .next → ∀ number, s.sessions c ≠ .named number := by
        simp [session]
      refine .uncommitted (inv.read (by rw [session]; trivial) ?_) (fun _ => rfl) rfl unnamed
      rw [inv.committed]
      exact ⟨Nat.le_add_left _ _, le_refl _⟩
    | proposed number spec =>
      rw [session] at moved here
      cases moved
      refine .uncommitted (inv.read (by rw [session]; trivial) ?_) (fun _ => rfl) rfl (by simp [session])
      rw [inv.committed, Option.elim_some]
      split
      · exact here
      · trivial
    | inserting number spec =>
      rw [session] at moved here
      simp only [nextStatement, Option.bind_eq_bind, Option.bind_eq_some_iff] at moved
      obtain ⟨⟨new, cell⟩, ran, result⟩ := moved
      have reading : Reading (s.sessions c) := by rw [session]; trivial
      obtain ⟨rfl, rfl⟩ | ⟨rfl, rfl, absent, free⟩ := Cell.insert_cases ran
      · cases result
        exact .uncommitted (inv.read reading trivial) (fun _ => rfl) rfl (by simp [session])
      · cases result
        refine .uncommitted ?_ (fun n => setRow_committed) rfl (by simp [session])
        refine inv.writeRow (.inserted number) number { spec := spec } _
          (Or.inl (by rw [Cell.holder, free]; rfl)) ⟨rfl, absent, rfl⟩
          (fun n row _ open_ => absurd open_ (inv.no_row reading n row))
          (fun later open_ => absurd open_ (inv.no_definition reading later)) ⟨here, ?_⟩
        simp [setSession, setRow]
    | inserted number =>
      rw [session] at moved here
      simp only [nextStatement, Option.bind_eq_bind, Option.bind_eq_some_iff] at moved
      obtain ⟨⟨answer, cell⟩, ran, result⟩ := moved
      cases result
      have unwritten : ∀ later, s.definition.pending ≠ some (c, later) := by
        intro later open_
        have written := inv.definitions c later open_
        rw [session] at written
        exact written
      obtain ⟨rfl, free⟩ := inv.update_definition unwritten ran
      refine .uncommitted ?_ (fun _ => rfl) Cell.committed_write (by simp [session])
      refine inv.writeDefinition (.counted number) _ free rfl (fun n row open_ => ?_)
        ⟨here.1, here.2, rfl⟩
      have written := inv.rows n c row open_
      rwa [session] at written
    | counted number =>
      rw [session] at moved
      cases moved
      exact .counted number session rfl
    | checking number =>
      rw [session] at moved
      cases moved
      refine .uncommitted (inv.read (by rw [session]; trivial) ?_) (fun _ => rfl) rfl (by simp [session])
      cases present : (s.rows number).committed with
      | none => trivial
      | some row =>
        change (s.rows number).committed.isSome
        rw [present]
        rfl
    | publishing number =>
      rw [session] at moved here
      cases moved
      exact .uncommitted (inv.read (by rw [session]; trivial) here) (fun _ => rfl) rfl
        (by simp [session])
    | superseding number remaining =>
      rw [session] at moved here
      have earlier : ∀ n row, (s.rows n).pending = some (c, row) →
          row.status = .superseded ∧ (s.rows n).committed.map VersionRow.spec = some row.spec := by
        intro n row open_
        have written := inv.rows n c row open_
        rwa [session] at written
      have unwritten : ∀ later, s.definition.pending ≠ some (c, later) := by
        intro later open_
        have written := inv.definitions c later open_
        rw [session] at written
        exact written
      cases remaining with
      | cons n remaining =>
        simp only [nextStatement, Option.bind_eq_bind, Option.bind_eq_some_iff] at moved
        obtain ⟨⟨answer, cell⟩, ran, result⟩ := moved
        cases result
        obtain ⟨-, rfl, -⟩ | ⟨before, after, seen, becomes, -, rfl, free⟩ := Cell.update_cases ran
        · -- the row is no longer published: it is passed over
          rw [setRow_self]
          refine .uncommitted ?_ (fun _ => rfl) rfl (by simp [session])
          refine inv.statement (c := c) sessions_setSession (fun _ => rfl) rfl
            (fun _ _ _ _ => Iff.rfl) (fun _ _ _ => Iff.rfl) (fun n row open_ => ?_)
            (fun later open_ => absurd open_ (unwritten later)) ?_
          · rw [sessions_setSession_self]
            exact earlier n row open_
          · rw [sessions_setSession_self]
            exact here
        · refine .uncommitted ?_ (fun n => setRow_committed) rfl (by simp [session])
          have spec := inv.spec_of_seen session seen
          unfold superseded at becomes
          split at becomes <;> cases becomes
          refine inv.writeRow (.superseding number remaining) n _ s.numbers free ⟨rfl, spec⟩
            (fun n row _ open_ => earlier n row open_)
            (fun later open_ => absurd open_ (unwritten later)) ?_
          change ((s.setRow n _).rows number).committed.isSome
          rw [setRow_committed]
          exact here
      | nil =>
        simp only [nextStatement, Option.bind_eq_bind, Option.bind_eq_some_iff] at moved
        obtain ⟨⟨answer, cell⟩, ran, result⟩ := moved
        cases result
        obtain ⟨-, -, missed⟩ | ⟨before, after, seen, becomes, -, rfl, free⟩ := Cell.update_cases ran
        · obtain ⟨row, seen⟩ := seenBy_isSome c here
          rw [seen] at missed
          cases missed
        · refine .uncommitted ?_ (fun n => setRow_committed) rfl (by simp [session])
          have spec := inv.spec_of_seen session seen
          cases becomes
          refine inv.writeRow (.marked number) number _ s.numbers free
            ⟨iff_of_true rfl rfl, spec⟩ (fun n row other open_ => ?_)
            (fun later open_ => absurd open_ (unwritten later)) ⟨?_, ?_⟩
          · obtain ⟨status, kept⟩ := earlier n row open_
            exact ⟨iff_of_false (by simp [status]) other, kept⟩
          · change ((s.setRow number _).rows number).committed.isSome
            rw [setRow_committed]
            exact here
          · simp [setSession, setRow]
    | marked number =>
      rw [session] at moved here
      simp only [nextStatement, Option.bind_eq_bind, Option.bind_eq_some_iff] at moved
      obtain ⟨⟨answer, cell⟩, ran, result⟩ := moved
      cases result
      have unwritten : ∀ later, s.definition.pending ≠ some (c, later) := by
        intro later open_
        have written := inv.definitions c later open_
        rw [session] at written
        exact written
      obtain ⟨rfl, free⟩ := inv.update_definition unwritten ran
      refine .uncommitted ?_ (fun _ => rfl) Cell.committed_write (by simp [session])
      refine inv.writeDefinition (.named number) _ free rfl (fun n row open_ => ?_)
        ⟨here.1, here.2, rfl⟩
      have written := inv.rows n c row open_
      rwa [session] at written
    | named number =>
      rw [session] at moved
      cases moved
      exact .named number rfl session rfl

theorem commit_rows (n : Nat) : (s.commit c).rows n = (s.rows n).commit c := rfl

theorem Inv.definition_held (inv : s.Inv definition) (held : s.definition.holder = some c) :
    ∃ later, s.definition.pending = some (c, later) ∧
      DefinitionWritten definition later (s.sessions c) := by
  obtain ⟨later, open_⟩ := Cell.pending_of_holder held
  exact ⟨later, open_, inv.definitions c later open_⟩

theorem Inv.commit_counted (inv : s.Inv definition) {number : Nat}
    (session : s.sessions c = .counted number) :
    (s.commit c).Inv (definition.withVersion number) ∧ s.KeepsSpecs (s.commit c) ∧
      (s.PublishedNamed → (s.commit c).PublishedNamed) := by
  have here := inv.sessions c
  rw [session] at here
  obtain ⟨⟨positive, bound⟩, heldRow, held⟩ := here
  obtain ⟨later, open_, written⟩ := inv.definition_held held
  rw [session] at written
  cases written
  obtain ⟨row, new⟩ := Cell.pending_of_holder heldRow
  have mine : ∀ n row, (s.rows n).pending = some (c, row) →
      n = number ∧ (s.rows n).committed = none ∧ row.status = .draft := by
    intro n row open_
    have written := inv.rows n c row open_
    rwa [session] at written
  obtain ⟨-, absent, draft⟩ := mine number row new
  have fresh : number = definition.latestVersion + 1 := by
    have unused : ¬(1 ≤ number ∧ number ≤ definition.latestVersion) := by
      rw [← inv.numbered, absent]
      exact Bool.false_ne_true
    omega
  have other : ∀ n, n ≠ number → (s.rows n).commit c = s.rows n := by
    intro n different
    refine Cell.commit_of_other fun held => ?_
    obtain ⟨row, open_⟩ := Cell.pending_of_holder held
    exact different (mine n row open_).1
  have own : (s.rows number).commit c = ⟨some row, none⟩ := Cell.commit_of_pending new
  have inv' : (s.commit c).Inv (definition.withVersion number) := by
    refine inv.commit open_ (by simp [AgentDefinition.withVersion, fresh]) fun n => ?_
    by_cases same : n = number
    · rw [same, own]
      exact iff_of_true rfl ⟨positive, le_refl _⟩
    · rw [other n same, inv.numbered]
      simp only [AgentDefinition.withVersion]
      omega
  refine ⟨inv', fun n old stored => ?_, fun published latest committed => ?_⟩
  · have different : n ≠ number := by
      rintro rfl
      cases absent.symm.trans stored
    exact ⟨old, by rw [commit_rows, other n different, stored], rfl⟩
  · obtain rfl := Option.some.inj (inv'.committed.symm.trans committed)
    obtain ⟨statuses, named⟩ := published definition inv.committed
    have unnamed : definition.publishedVersion ≠ some number := by
      intro name
      have := named number name
      rw [absent] at this
      cases this
    constructor
    · intro n stored committed
      by_cases same : n = number
      · rw [commit_rows, same, own] at committed
        cases committed
        refine iff_of_false (by simp [draft]) ?_
        rw [same]
        exact unnamed
      · rw [commit_rows, other n same] at committed
        exact statuses n stored committed
    · intro n name
      have different : n ≠ number := by
        rintro rfl
        exact unnamed name
      rw [commit_rows, other n different]
      exact named n name

theorem Inv.commit_named (inv : s.Inv definition) {number : Nat}
    (session : s.sessions c = .named number) :
    (s.commit c).Inv (definition.withPublished number) ∧ s.KeepsSpecs (s.commit c) ∧
      ((s.commit c).PublishedNamed ↔ ∀ n row, n ≠ number → (s.rows n).committed = some row →
        row.status = .published → (s.rows n).holder = some c) := by
  have here := inv.sessions c
  rw [session] at here
  obtain ⟨present, heldRow, held⟩ := here
  obtain ⟨later, open_, written⟩ := inv.definition_held held
  rw [session] at written
  cases written
  have mine : ∀ n row, (s.rows n).pending = some (c, row) →
      (row.status = .published ↔ n = number) ∧
        (s.rows n).committed.map VersionRow.spec = some row.spec := by
    intro n row open_
    have written := inv.rows n c row open_
    rwa [session] at written
  have stored_after : ∀ n row, ((s.rows n).commit c).committed = some row →
      ((s.rows n).holder = some c ∧ (row.status = .published ↔ n = number)) ∨
        (s.rows n).holder ≠ some c ∧ (s.rows n).committed = some row := by
    intro n row after
    by_cases held : (s.rows n).holder = some c
    · obtain ⟨value, open_⟩ := Cell.pending_of_holder held
      rw [Cell.commit_of_pending open_] at after
      cases after
      exact .inl ⟨held, (mine n row open_).1⟩
    · rw [Cell.commit_of_other held] at after
      exact .inr ⟨held, after⟩
  have keeps : s.KeepsSpecs (s.commit c) := by
    intro n old stored
    rw [commit_rows]
    by_cases held : (s.rows n).holder = some c
    · obtain ⟨value, open_⟩ := Cell.pending_of_holder held
      have spec := (mine n value open_).2
      rw [stored] at spec
      exact ⟨value, by rw [Cell.commit_of_pending open_], (Option.some.inj spec).symm⟩
    · exact ⟨old, by rw [Cell.commit_of_other held, stored], rfl⟩
  have kept : ∀ n, ((s.rows n).commit c).committed.isSome ↔ (s.rows n).committed.isSome := by
    intro n
    refine ⟨fun after => ?_, fun before => ?_⟩
    · by_cases held : (s.rows n).holder = some c
      · obtain ⟨value, open_⟩ := Cell.pending_of_holder held
        obtain ⟨old, stored, -⟩ := Option.map_eq_some_iff.mp (mine n value open_).2
        rw [stored]
        rfl
      · rwa [Cell.commit_of_other held] at after
    · obtain ⟨old, stored⟩ := Option.isSome_iff_exists.mp before
      obtain ⟨row, after, -⟩ := keeps n old stored
      exact congrArg Option.isSome after
  have inv' : (s.commit c).Inv (definition.withPublished number) :=
    inv.commit open_ (le_refl _) fun n => (kept n).trans (inv.numbered n)
  refine ⟨inv', keeps, fun published n row different stored status => ?_, fun superseded later after => ?_⟩
  · by_contra held
    have after : ((s.commit c).rows n).committed = some row := by
      rw [commit_rows, Cell.commit_of_other held, stored]
    have name := ((published _ inv'.committed).1 n row after).mp status
    exact different (Option.some.inj name).symm
  · obtain rfl := Option.some.inj (inv'.committed.symm.trans after)
    refine ⟨fun n row stored => ?_, fun n name => ?_⟩
    · have named : (definition.withPublished number).publishedVersion = some n ↔ n = number := by
        rw [AgentDefinition.withPublished, Option.some.injEq, eq_comm]
      rw [named]
      obtain ⟨-, status⟩ | ⟨unheld, before⟩ := stored_after n row stored
      · exact status
      · have different : n ≠ number := by
          rintro rfl
          exact unheld heldRow
        exact iff_of_false (fun status => unheld (superseded n row different before status)) different
    · obtain rfl := Option.some.inj name
      exact (kept number).mpr present

theorem KeepsSpecs.of_same (rows : ∀ n, (s'.rows n).committed = (s.rows n).committed) :
    s.KeepsSpecs s' := fun n row stored => ⟨row, (rows n).trans stored, rfl⟩

theorem inv_step (inv : s.Inv definition) {label : Nat × SqlStatement J}
    (moved : s.step label = some s') : ∃ later, s'.Inv later ∧ s.KeepsSpecs s' ∧
      (s.PublishedNamed → (s'.PublishedNamed ↔ s.Uncontested label)) := by
  obtain ⟨c, statement⟩ := label
  cases effect_of_step inv moved with
  | uncommitted inv' rows same unnamed =>
    refine ⟨definition, inv', .of_same rows, fun published => iff_of_true ?_ ?_⟩
    · intro later committed
      obtain ⟨statuses, named⟩ := published later (same ▸ committed)
      exact ⟨fun n row stored => statuses n row (rows n ▸ stored),
        fun n name => (rows n).symm ▸ named n name⟩
    · cases statement with
      | next => exact fun number session => absurd session (unnamed rfl number)
      | begin => trivial
      | fail => trivial
  | counted number session result =>
    subst result
    obtain ⟨inv', keeps, published⟩ := inv.commit_counted session
    refine ⟨_, inv', keeps, fun before => iff_of_true (published before) ?_⟩
    cases statement with
    | next => exact fun number' session' => nomatch session.symm.trans session'
    | begin => trivial
    | fail => trivial
  | named number next session result =>
    subst result next
    obtain ⟨inv', keeps, published⟩ := inv.commit_named session
    refine ⟨_, inv', keeps, fun _ => published.trans ⟨fun all number' session' => ?_, fun all => ?_⟩⟩
    · cases session.symm.trans session'
      exact all
    · exact all number session

theorem inv_created (spec : AgentVersionSpec J) : (created spec).Inv { latestVersion := 1 } where
  committed := rfl
  numbered n := by
    by_cases first : n = 1
    · simp [created, first]
    · simp only [created, first, if_false, Cell.absent, Option.isSome_none, Bool.false_eq_true,
        false_iff]
      omega
  rows n c row open_ := by
    by_cases first : n = 1 <;> simp [created, first, Cell.absent] at open_
  definitions c later open_ := nomatch open_
  sessions _ := trivial

theorem publishedNamed_created (spec : AgentVersionSpec J) : (created spec).PublishedNamed := by
  rintro definition committed
  cases committed
  refine ⟨fun n row stored => ?_, fun n name => nomatch name⟩
  by_cases first : n = 1
  · simp only [created, first, if_true, Option.some.injEq] at stored
    subst stored
    simp
  · simp [created, first, Cell.absent] at stored

theorem consecutive_run (spec : AgentVersionSpec J) (labels : List (Nat × SqlStatement J)) :
    Along step (fun s _ s' => s'.Consecutive ∧ s.KeepsSpecs s') (created spec) labels := by
  refine Along.of_invariant (I := fun s => ∃ definition, s.Inv definition) ?_
    ⟨_, inv_created spec⟩ (Machine.along_true step _ _)
  rintro s label s' ⟨definition, inv⟩ - moved
  obtain ⟨later, inv', keeps, -⟩ := inv_step inv moved
  exact ⟨⟨later, inv'⟩, ⟨later, inv'.committed, inv'.numbered⟩, keeps⟩

theorem published_run (spec : AgentVersionSpec J) (labels : List (Nat × SqlStatement J)) :
    Along step (fun _ _ s' => s'.PublishedNamed) (created spec) labels ↔
      Conforms step Uncontested (created spec) labels := by
  refine Machine.along_congr_of_invariant
    (I := fun s => (∃ definition, s.Inv definition) ∧ s.PublishedNamed) ?_ ?_
    ⟨⟨_, inv_created spec⟩, publishedNamed_created spec⟩
  · rintro s label s' ⟨⟨definition, inv⟩, published⟩ moved
    obtain ⟨later, inv', -, exactly⟩ := inv_step inv moved
    exact exactly published
  · rintro s label s' ⟨⟨definition, inv⟩, -⟩ moved published
    obtain ⟨later, inv', -, -⟩ := inv_step inv moved
    exact ⟨⟨later, inv'⟩, published⟩

end VersionTables

/-- The history in the SQL registry keeps numbers and specifications always, and the published
version exactly when no publication is contested; that of the registry in memory is linear when no
call writes back what another has overwritten. -/
theorem version_history_linear {J : Type} (spec : AgentVersionSpec J) :
    (∀ labels, Along VersionTables.step (fun s _ s' => s'.Consecutive ∧ s.KeepsSpecs s')
        (.created spec) labels ∧
      (Along VersionTables.step (fun _ _ s' => s'.PublishedNamed) (.created spec) labels ↔
        Conforms VersionTables.step VersionTables.Uncontested (.created spec) labels)) ∧
    ∀ labels, Conforms InMemoryAgentRegistry.step InMemoryAgentRegistry.Current (.created spec) labels →
      Along InMemoryAgentRegistry.step (fun s _ s' =>
        (s'.Settled → Linear s'.versions s'.definition) ∧ contents s.versions <+: contents s'.versions)
        (.created spec) labels :=
  ⟨fun labels => ⟨VersionTables.consecutive_run spec labels, VersionTables.published_run spec labels⟩,
    fun _ conforms => InMemoryAgentRegistry.linear_run spec conforms⟩

def blank : AgentVersionSpec Unit where
  inputSchema := ()
  outputContract := ()
  instructions := "Answer."
  modelPolicy := ()
  runtimeSnapshot := ()

/-- In memory, two creations store the number 2 twice. In the tables, two publications that both
begin when nothing is published leave two versions published. -/
theorem version_history_forks :
    (∃ s, Machine.run InMemoryAgentRegistry.step (.created blank)
      ([(0, .begin (.createVersion blank)), (1, .begin (.createVersion blank))] ++
        [0, 1, 0, 1, 0, 1, 0, 1].map fun c => (c, .next)) = some s ∧
      s.Settled ∧ ¬Linear s.versions s.definition) ∧
    ∃ s, Machine.run VersionTables.step (.created blank)
      ((0, .begin (.createVersion blank)) :: [0, 0, 0, 0, 0].map (fun c => (c, .next)) ++
        [(0, .begin (.publish 1)), (1, .begin (.publish 2))] ++
        [0, 1, 0, 1, 0, 1, 0, 0, 1, 1].map fun c => (c, .next)) = some s ∧
      ¬s.PublishedNamed := by
  refine ⟨⟨_, rfl, fun c => ?_, fun linear => ?_⟩, ⟨_, rfl, fun published => ?_⟩⟩
  · obtain _ | _ | c := c <;> exact not_false
  · exact absurd linear.numbered (by decide)
  · have first := ((published _ rfl).1 1 { status := .published, spec := blank } rfl).mp rfl
    exact absurd first (by decide)

end Taroai.Agents
