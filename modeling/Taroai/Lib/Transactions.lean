import Mathlib.Data.List.Basic

/-! Tables under read committed isolation. A cell is the row of one key: its committed version
and, while a transaction holds its lock, the version that transaction wrote. A log is a table
that is only inserted into; its rows carry their writer until it commits. A statement that has
to wait for a lock has no result. -/

namespace Taroai

structure Cell (β : Type*) where
  committed : Option β
  pending : Option (Nat × β)

namespace Cell

variable {β : Type*}

def absent : Cell β := ⟨none, none⟩

def holder (cell : Cell β) : Option Nat := cell.pending.map Prod.fst

def seenBy (cell : Cell β) (c : Nat) : Option β :=
  match cell.pending with
  | some (writer, value) => if writer = c then some value else cell.committed
  | none => cell.committed

def write (cell : Cell β) (c : Nat) (value : β) : Cell β := { cell with pending := some (c, value) }

/-- An update of the row, whose condition fails where `f` has no value. It waits for the lock of a
row that it is to change. -/
def update (cell : Cell β) (c : Nat) (f : β → Option β) : Option (Option β × Cell β) :=
  match (cell.seenBy c).bind f with
  | none => some (none, cell)
  | some value =>
    if cell.holder.all (· = c) then some (some value, cell.write c value) else none

def insert (cell : Cell β) (c : Nat) (value : β) : Option (Bool × Cell β) :=
  match cell.seenBy c with
  | some _ => some (false, cell)
  | none => if cell.holder.all (· = c) then some (true, cell.write c value) else none

def commit (cell : Cell β) (c : Nat) : Cell β :=
  match cell.pending with
  | some (writer, value) => if writer = c then ⟨some value, none⟩ else cell
  | none => cell

def rollback (cell : Cell β) (c : Nat) : Cell β :=
  if cell.holder = some c then { cell with pending := none } else cell

variable {cell cell' : Cell β} {c d : Nat} {value : β}

@[simp] theorem holder_write : (cell.write c value).holder = some c := rfl

@[simp] theorem committed_write : (cell.write c value).committed = cell.committed := rfl

theorem pending_of_holder (held : cell.holder = some c) : ∃ value, cell.pending = some (c, value) := by
  unfold holder at held
  obtain ⟨⟨writer, value⟩, present, rfl⟩ := Option.map_eq_some_iff.mp held
  exact ⟨value, present⟩

theorem holder_commit (cell : Cell β) (c : Nat) :
    (cell.commit c).holder = if cell.holder = some c then none else cell.holder := by
  obtain ⟨committed, _ | ⟨writer, value⟩⟩ := cell
  · rfl
  · by_cases same : writer = c <;> simp [commit, holder, same]

theorem holder_rollback (cell : Cell β) (c : Nat) :
    (cell.rollback c).holder = if cell.holder = some c then none else cell.holder := by
  unfold rollback
  split <;> simp [holder]

theorem committed_rollback (cell : Cell β) (c : Nat) :
    (cell.rollback c).committed = cell.committed := by
  unfold rollback
  split <;> rfl

theorem committed_commit (cell : Cell β) (c : Nat) :
    (cell.commit c).committed = cell.committed ∨
      ∃ value, cell.pending = some (c, value) ∧ (cell.commit c).committed = some value := by
  obtain ⟨committed, _ | ⟨writer, value⟩⟩ := cell
  · exact Or.inl rfl
  · by_cases same : writer = c
    · subst same
      exact Or.inr ⟨value, rfl, by simp [commit]⟩
    · exact Or.inl (by simp [commit, same])

theorem commit_of_pending (open_ : cell.pending = some (c, value)) :
    cell.commit c = ⟨some value, none⟩ := by
  unfold commit
  rw [open_]
  exact if_pos rfl

theorem commit_of_other (other : cell.holder ≠ some c) : cell.commit c = cell := by
  obtain ⟨committed, _ | ⟨writer, value⟩⟩ := cell
  · rfl
  · have : writer ≠ c := fun same => other (congrArg some same)
    exact if_neg this

theorem rollback_of_other (other : cell.holder ≠ some c) : cell.rollback c = cell := if_neg other

theorem pending_commit {writer : Nat} (open_ : (cell.commit c).pending = some (writer, value)) :
    cell.pending = some (writer, value) ∧ writer ≠ c := by
  obtain ⟨committed, _ | ⟨other, version⟩⟩ := cell
  · cases open_
  · by_cases same : other = c
    · simp [commit, same] at open_
    · simp only [commit, same, if_false, Option.some.injEq, Prod.mk.injEq] at open_
      obtain ⟨rfl, rfl⟩ := open_
      exact ⟨rfl, same⟩

theorem pending_rollback {writer : Nat} (open_ : (cell.rollback c).pending = some (writer, value)) :
    cell.pending = some (writer, value) := by
  unfold rollback at open_
  split at open_
  · cases open_
  · exact open_

theorem update_cases {f : β → Option β} {answer : Option β}
    (ran : cell.update c f = some (answer, cell')) :
    (answer = none ∧ cell' = cell ∧ (cell.seenBy c).bind f = none) ∨
      ∃ before value, cell.seenBy c = some before ∧ f before = some value ∧ answer = some value ∧
        cell' = cell.write c value ∧ (cell.holder = none ∨ cell.holder = some c) := by
  unfold update at ran
  split at ran
  · next missed =>
    cases ran
    exact Or.inl ⟨rfl, rfl, missed⟩
  · next value changed =>
    obtain ⟨before, seen, becomes⟩ := Option.bind_eq_some_iff.mp changed
    split at ran
    · next free =>
      cases ran
      refine Or.inr ⟨before, value, seen, becomes, rfl, rfl, ?_⟩
      cases held : cell.holder with
      | none => exact Or.inl rfl
      | some writer =>
        rw [held] at free
        have : writer = c := by simpa using free
        exact Or.inr (congrArg some this)
    · cases ran

theorem insert_cases {new : Bool} (ran : cell.insert c value = some (new, cell')) :
    (new = false ∧ cell' = cell) ∨
      new = true ∧ cell' = cell.write c value ∧ cell.committed = none ∧ cell.pending = none := by
  obtain ⟨committed, pending⟩ := cell
  cases pending with
  | none =>
    cases committed with
    | none =>
      cases ran
      exact Or.inr ⟨rfl, rfl, rfl, rfl⟩
    | some old =>
      cases ran
      exact Or.inl ⟨rfl, rfl⟩
  | some entry =>
    obtain ⟨writer, version⟩ := entry
    by_cases same : writer = c
    · simp only [insert, seenBy, same, if_true, Option.some.injEq, Prod.mk.injEq] at ran
      exact Or.inl ⟨ran.1.symm, ran.2.symm ▸ same ▸ rfl⟩
    · cases committed with
      | none => simp [insert, seenBy, holder, same] at ran
      | some old =>
        simp only [insert, seenBy, same, if_false, Option.some.injEq, Prod.mk.injEq] at ran
        exact Or.inl ⟨ran.1.symm, ran.2.symm⟩

end Cell

structure Written (α : Type*) where
  row : α
  writer : Option Nat

namespace Written

variable {α : Type*}

def commit (c : Nat) (entry : Written α) : Written α :=
  if entry.writer = some c then { entry with writer := none } else entry

@[simp] theorem row_commit (c : Nat) (entry : Written α) : (entry.commit c).row = entry.row := by
  unfold commit
  split <;> rfl

end Written

/-- A table that is only inserted into, in the order of the inserts. -/
abbrev Log (α : Type*) := List (Written α)

namespace Log

variable {α : Type*}

def commit (log : Log α) (c : Nat) : Log α := List.map (Written.commit c) log

def rollback (log : Log α) (c : Nat) : Log α := List.filter (fun entry => entry.writer ≠ some c) log

def insert (log : Log α) (c : Nat) (row : α) : Log α := log ++ [⟨row, some c⟩]

def rows (log : Log α) : List α :=
  (List.filter (fun entry => entry.writer = none) log).map Written.row

def only (log : Log α) (kind : α → Bool) : Log α := List.filter (fun entry => kind entry.row) log

variable {log : Log α} {c : Nat} {kind : α → Bool} {row : α}

theorem only_commit : (log.commit c).only kind = (log.only kind).commit c := by
  unfold commit only
  rw [List.filter_map]
  congr 2
  funext entry
  simp

theorem rows_only : (log.only kind).rows = log.rows.filter kind := by
  unfold rows only
  rw [List.filter_map, List.filter_filter, List.filter_filter]
  congr 2
  funext entry
  rw [Bool.and_comm]
  rfl

theorem commit_of_unwritten (unwritten : ∀ entry ∈ log, entry.writer ≠ some c) :
    log.commit c = log := by
  unfold commit
  refine (List.map_congr_left fun entry member => ?_).trans (List.map_id _)
  exact if_neg (unwritten entry member)

theorem mem_commit {entry : Written α} {d : Nat} (member : entry ∈ log.commit c)
    (wrote : entry.writer = some d) : entry ∈ log ∧ d ≠ c := by
  obtain ⟨before, present, rfl⟩ := List.mem_map.mp member
  unfold Written.commit at wrote ⊢
  split at wrote
  · cases wrote
  · next other =>
    rw [if_neg other]
    exact ⟨present, fun same => other (wrote.trans (congrArg some same))⟩

@[simp] theorem rows_insert : (log.insert c row).rows = log.rows := by
  simp [rows, insert]

@[simp] theorem rows_rollback : (log.rollback c).rows = log.rows := by
  unfold rows rollback
  rw [List.filter_filter]
  congr 2
  funext entry
  by_cases settled : entry.writer = none <;> simp [settled]

end Log

end Taroai
