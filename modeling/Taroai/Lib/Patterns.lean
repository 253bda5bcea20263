import Mathlib.Data.List.Basic

/-! Regular expressions as the matches they have at a place of a text, in the order in which a
backtracking matcher tries them; the first is the one `re` finds. What is repeated is always a
single character. `sub` is `re.sub` for patterns that match no empty text. -/

namespace Taroai

structure Spot where
  before : List Char
  after : List Char

def Pattern (α : Type) : Type := Spot → List (α × Spot)

namespace Pattern

variable {α β : Type}

instance : Monad Pattern where
  pure a := fun spot => [(a, spot)]
  bind m f := fun spot => (m spot).flatMap fun (a, next) => f a next

def one (p : Char → Bool) : Pattern Unit := fun spot =>
  match spot.after with
  | [] => []
  | c :: rest => if p c then [((), ⟨c :: spot.before, rest⟩)] else []

def literal (alike : Char → Char → Bool) : List Char → Pattern Unit
  | [] => pure ()
  | c :: rest => do
    one (alike c)
    literal alike rest

def reached (p : Char → Bool) : List Char → List Char → List Spot
  | before, [] => [⟨before, []⟩]
  | before, c :: rest => ⟨before, c :: rest⟩ :: if p c then reached p (c :: before) rest else []

/-- `{n,}` -/
def atLeast (n : Nat) (p : Char → Bool) : Pattern Unit := fun spot =>
  ((reached p spot.before spot.after).drop n).reverse.map fun next => ((), next)

/-- `*?` -/
def lazily (p : Char → Bool) : Pattern Unit := fun spot =>
  (reached p spot.before spot.after).map fun next => ((), next)

def either (patterns : List (Pattern α)) : Pattern α := fun spot =>
  patterns.flatMap fun pattern => pattern spot

def optional (pattern : Pattern Unit) : Pattern Unit := either [pattern, pure ()]

/-- `\b` -/
def boundary (word : Char → Bool) : Pattern Unit := fun spot =>
  if spot.before.head?.any word = spot.after.head?.any word then [] else [((), spot)]

/-- `(?=...)` -/
def ahead (pattern : Pattern α) : Pattern Unit := fun spot =>
  if (pattern spot).isEmpty then [] else [((), spot)]

/-- `(?<=[...])` -/
def behind (p : Char → Bool) : Pattern Unit := fun spot =>
  if spot.before.head?.any p then [((), spot)] else []

def atEnd : Pattern Unit := fun spot => if spot.after.isEmpty then [((), spot)] else []

def group (pattern : Pattern Unit) : Pattern (List Char) := fun spot =>
  (pattern spot).map fun (_, next) =>
    ((next.before.take (next.before.length - spot.before.length)).reverse, next)

/-- The replaced text, and what the replacements count. The number counts the characters of a match
that are still to be passed. -/
def subFrom (pattern : Pattern α) (put : α → List Char × Nat) :
    Nat → List Char → List Char → List Char × Nat
  | _, _, [] => ([], 0)
  | passed + 1, before, c :: rest => subFrom pattern put passed (c :: before) rest
  | 0, before, c :: rest =>
    match (pattern ⟨before, c :: rest⟩).head? with
    | none =>
      let (text, count) := subFrom pattern put 0 (c :: before) rest
      (c :: text, count)
    | some (found, next) =>
      let (text, count) :=
        subFrom pattern put (next.before.length - before.length - 1) (c :: before) rest
      ((put found).1 ++ text, (put found).2 + count)

def sub (pattern : Pattern α) (put : α → List Char × Nat) (text : List Char) : List Char × Nat :=
  subFrom pattern put 0 [] text

/-- The places where `re.finditer` finds the pattern, as `subFrom` passes over the text. -/
def startsFrom (pattern : Pattern α) : Nat → Nat → List Char → List Char → List Nat
  | _, _, _, [] => []
  | passed + 1, place, before, c :: rest => startsFrom pattern passed (place + 1) (c :: before) rest
  | 0, place, before, c :: rest =>
    match (pattern ⟨before, c :: rest⟩).head? with
    | none => startsFrom pattern 0 (place + 1) (c :: before) rest
    | some (_, next) =>
      place ::
        startsFrom pattern (next.before.length - before.length - 1) (place + 1) (c :: before) rest

def starts (pattern : Pattern α) (text : List Char) : List Nat := startsFrom pattern 0 0 [] text

theorem mem_startsFrom_lt {pattern : Pattern α} {passed place found : Nat} {before text : List Char}
    (among : found ∈ startsFrom pattern passed place before text) : found < place + text.length := by
  induction text generalizing passed place before with
  | nil => simp [startsFrom] at among
  | cons c rest ih =>
    rw [List.length_cons]
    cases passed with
    | succ passed =>
      have := ih among
      omega
    | zero =>
      rw [startsFrom] at among
      split at among
      · have := ih among
        omega
      · rcases List.mem_cons.mp among with rfl | later
        · omega
        · have := ih later
          omega

theorem mem_starts_lt {pattern : Pattern α} {text : List Char} {found : Nat}
    (among : found ∈ starts pattern text) : found < text.length := by
  simpa using mem_startsFrom_lt among

end Pattern

end Taroai
