import Mathlib.Data.List.Basic

/-! White space as Python's `str` has it, and checks of the characters of a literal text. -/

namespace Taroai

theorem forall_mem_of_all {p : Char → Prop} [DecidablePred p] {chars : List Char}
    (checked : chars.all (fun c => decide (p c)) = true) : ∀ c ∈ chars, p c :=
  fun c among => of_decide_eq_true (List.all_eq_true.mp checked c among)

/-- The characters that `str.strip` removes and `\s` matches. -/
def isSpace (c : Char) : Bool :=
  let n := c.toNat
  (9 ≤ n && n ≤ 13) || (28 ≤ n && n ≤ 32) || n == 0x85 || n == 0xa0 || n == 0x1680 ||
    (0x2000 ≤ n && n ≤ 0x200a) || n == 0x2028 || n == 0x2029 || n == 0x202f || n == 0x205f ||
    n == 0x3000

def stripChars (p : Char → Bool) (chars : List Char) : List Char :=
  (((chars.dropWhile p).reverse).dropWhile p).reverse

theorem stripChars_of_ends {p : Char → Bool} {chars : List Char}
    (first : ∀ c ∈ chars.head?, p c = false) (last : ∀ c ∈ chars.getLast?, p c = false) :
    stripChars p chars = chars := by
  have keep : ∀ {cs : List Char}, (∀ c ∈ cs.head?, p c = false) → cs.dropWhile p = cs := by
    intro cs head
    cases cs with
    | nil => rfl
    | cons c cs => simp [head c rfl]
  rw [stripChars, keep first, keep (by rwa [List.head?_reverse]), List.reverse_reverse]

theorem head?_dropWhile {p : Char → Bool} (chars : List Char) :
    ∀ c ∈ (chars.dropWhile p).head?, p c = false := by
  intro c first
  have := List.head?_dropWhile_not p chars
  rwa [Option.mem_def.mp first] at this

theorem stripChars_stripChars (p : Char → Bool) (chars : List Char) :
    stripChars p (stripChars p chars) = stripChars p chars := by
  refine stripChars_of_ends ?_ ?_
  · -- What is left at the end is a prefix of what begins with a character that is kept.
    intro c first
    have initial : stripChars p chars <+: chars.dropWhile p := by
      rw [stripChars, ← List.reverse_suffix, List.reverse_reverse]
      exact List.dropWhile_suffix p
    obtain ⟨rest, whole⟩ := initial
    refine head?_dropWhile chars c ?_
    rw [← whole, List.head?_append, Option.mem_def.mp first]
    rfl
  · intro c last
    rw [stripChars, List.getLast?_reverse] at last
    exact head?_dropWhile _ c last

theorem exists_stripped (p : Char → Bool) (chars : List Char) : ∃ front back,
    chars = front ++ (stripChars p chars ++ back) ∧ (∀ c ∈ front, p c = true) ∧
      ∀ c ∈ back, p c = true := by
  refine ⟨chars.takeWhile p, ((chars.dropWhile p).reverse.takeWhile p).reverse, ?_, ?_, ?_⟩
  · rw [stripChars, ← List.reverse_append, List.takeWhile_append_dropWhile, List.reverse_reverse,
      List.takeWhile_append_dropWhile]
  · exact List.all_eq_true.mp List.all_takeWhile
  · exact fun c among => List.all_eq_true.mp List.all_takeWhile c (List.mem_reverse.mp among)

theorem dropWhile_append_kept {p : Char → Bool} (front : List Char) {back : List Char}
    (kept : ∀ c ∈ back.head?, p c = false) :
    (front ++ back).dropWhile p = front.dropWhile p ++ back := by
  have back_kept : back.dropWhile p = back := by
    cases back with
    | nil => rfl
    | cons c back => simp [kept c rfl]
  rw [List.dropWhile_append, back_kept]
  split
  · rename_i emptied
    rw [List.isEmpty_iff.mp emptied, List.nil_append]
  · rfl

theorem stripChars_around {p : Char → Bool} (front : List Char) {mid : List Char} (back : List Char)
    (nonempty : mid ≠ []) (first : ∀ c ∈ mid.head?, p c = false)
    (last : ∀ c ∈ mid.getLast?, p c = false) :
    stripChars p (front ++ (mid ++ back)) =
      front.dropWhile p ++ (mid ++ (back.reverse.dropWhile p).reverse) := by
  have first_back : ∀ c ∈ (mid ++ back).head?, p c = false := by
    rwa [List.head?_append_of_ne_nil _ nonempty]
  have last_front : ∀ c ∈ (mid.reverse ++ (front.dropWhile p).reverse).head?, p c = false := by
    rwa [List.head?_append_of_ne_nil _ (by simpa using nonempty), List.head?_reverse]
  rw [stripChars, dropWhile_append_kept front first_back, List.reverse_append, List.reverse_append,
    List.append_assoc, dropWhile_append_kept _ last_front]
  simp

/-- `text.strip()` -/
def strippedChars (text : String) : List Char := stripChars isSpace text.toList

end Taroai
