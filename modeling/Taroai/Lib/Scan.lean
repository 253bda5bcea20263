import Mathlib.Data.List.Basic

/-! Scanning a list from the left: cutting it into pieces, and finding the matches of a pattern
that do not overlap. Both go on behind what they have taken, so each keeps how many elements are
still to be skipped. Nothing is lost by cutting; a match is found unless an earlier one runs over
the place where it begins. -/

namespace Taroai.Scan

variable {α β κ : Type}

/-- The pieces of a list. What is ahead tells the kind of the next piece and how many elements it
takes after its first. -/
def pieces (ahead : List α → κ × Nat) : Nat → List α → List (κ × List α)
  | _, [] => []
  | 0, a :: rest =>
    let (kind, more) := ahead (a :: rest)
    (kind, a :: rest.take more) :: pieces ahead more rest
  | skip + 1, _ :: rest => pieces ahead skip rest

theorem flatMap_pieces (ahead : List α → κ × Nat) (skip : Nat) (l : List α) :
    (pieces ahead skip l).flatMap Prod.snd = l.drop skip := by
  induction l generalizing skip with
  | nil => simp [pieces]
  | cons a rest ih =>
    cases skip with
    | zero => simp [pieces, ih, List.take_append_drop]
    | succ skip => simp [pieces, ih]

/-- A pattern sees the element before its place and what is ahead; a match tells how many
elements it takes after its first. -/
abbrev Pattern (α β : Type) := Option α → List α → Option (β × Nat)

def occurrences (find : Pattern α β) : Option α → Nat → List α → List β
  | _, _, [] => []
  | prev, 0, a :: rest =>
    match find prev (a :: rest) with
    | some (b, more) => b :: occurrences find (some a) more rest
    | none => occurrences find (some a) 0 rest
  | _, skip + 1, a :: rest => occurrences find (some a) skip rest

def lastAfter (prev : Option α) (l : List α) : Option α := l.getLast?.or prev

theorem lastAfter_cons (prev : Option α) (a : α) (l : List α) :
    lastAfter prev (a :: l) = lastAfter (some a) l := by
  cases l with
  | nil => rfl
  | cons b l => simp [lastAfter, List.getLast?_cons]

def Overrun (find : Pattern α β) (prev : Option α) (before after : List α) : Prop :=
  ∃ start mid b more, before = start ++ mid ∧ mid ≠ [] ∧
    find (lastAfter prev start) (mid ++ after) = some (b, more) ∧ mid.length ≤ more

theorem Overrun.cons {find : Pattern α β} {prev : Option α} {a : α} {before after : List α}
    (overrun : Overrun find (some a) before after) : Overrun find prev (a :: before) after := by
  obtain ⟨start, mid, b, more, rfl, nonempty, found, long⟩ := overrun
  exact ⟨a :: start, mid, b, more, rfl, nonempty, by rwa [lastAfter_cons], long⟩

theorem mem_occurrences {find : Pattern α β} {before after : List α} {b : β} {more : Nat}
    {prev : Option α} {skip : Nat} (found : find (lastAfter prev before) after = some (b, more))
    (ahead : after ≠ []) (free : ¬Overrun find prev before after) (short : skip ≤ before.length) :
    b ∈ occurrences find prev skip (before ++ after) := by
  induction before generalizing prev skip with
  | nil =>
    cases after with
    | nil => exact absurd rfl ahead
    | cons a rest =>
      obtain rfl : skip = 0 := by simpa using short
      have here : find prev (a :: rest) = some (b, more) := found
      simp [occurrences, here]
  | cons a before ih =>
    rw [lastAfter_cons] at found
    have free' : ¬Overrun find (some a) before after := fun overrun => free overrun.cons
    cases skip with
    | succ skip => exact ih found free' (by simpa using short)
    | zero =>
      simp only [List.cons_append, occurrences]
      cases first : find prev (a :: (before ++ after)) with
      | none => exact ih found free' (Nat.zero_le _)
      | some taken =>
        obtain ⟨b', more'⟩ := taken
        refine List.mem_cons_of_mem _ (ih found free' ?_)
        by_contra long
        refine free ⟨[], a :: before, b', more', rfl, List.cons_ne_nil _ _, first, ?_⟩
        simp only [List.length_cons]
        omega

end Taroai.Scan
