import Taroai.Lib.Json
import Taroai.Lib.Whitespace
import Mathlib.Data.List.Basic

/-! `json.dumps` with `ensure_ascii=False`: only quotes, backslashes and control characters are
escaped. The text it makes has no control characters, so when it becomes a string of another
document each quote and backslash in it counts once more. -/

namespace Taroai.Json

def escapeUnicode (c : Char) : List Char :=
  if c = '"' then ['\\', '"']
  else if c = '\\' then ['\\', '\\']
  else if c = '\n' then ['\\', 'n']
  else if c = '\r' then ['\\', 'r']
  else if c = '\t' then ['\\', 't']
  else if c.toNat = 8 then ['\\', 'b']
  else if c.toNat = 12 then ['\\', 'f']
  else if c.toNat < 32 then unicodeEscape c.toNat
  else [c]

def quoteUnicode (s : String) : List Char := '"' :: (s.toList.flatMap escapeUnicode ++ ['"'])

mutual

/-- `json.dumps(value, ensure_ascii=False)` -/
def dumpsUnicode (float : Rat → String) : Json → List Char
  | .null => "null".toList
  | .bool b => if b then "true".toList else "false".toList
  | .int n => (toString n).toList
  | .float q => (float q).toList
  | .text s => quoteUnicode s
  | .list xs => '[' :: (List.intercalate ", ".toList (dumpEachUnicode float xs) ++ [']'])
  | .dict items => '{' :: (List.intercalate ", ".toList (dumpItemsUnicode float items) ++ ['}'])

def dumpEachUnicode (float : Rat → String) : List Json → List (List Char)
  | [] => []
  | x :: xs => dumpsUnicode float x :: dumpEachUnicode float xs

def dumpItemsUnicode (float : Rat → String) : List (String × Json) → List (List Char)
  | [] => []
  | (key, value) :: rest =>
    (quoteUnicode key ++ ": ".toList ++ dumpsUnicode float value) :: dumpItemsUnicode float rest

end

def doubled (c : Char) : Bool := c = '"' || c = '\\'

def Printed (text : List Char) : Prop := ∀ c ∈ text, 32 ≤ c.toNat

theorem printed_append {a b : List Char} : Printed (a ++ b) ↔ Printed a ∧ Printed b :=
  List.forall_mem_append

theorem printed_cons {c : Char} {a : List Char} : Printed (c :: a) ↔ 32 ≤ c.toNat ∧ Printed a :=
  List.forall_mem_cons

theorem hexDigit_printed (n : Nat) : 32 ≤ (hexDigit n).toNat := by
  have small : n % 16 < 16 := Nat.mod_lt n (by decide)
  have checked : ∀ k < 16, 32 ≤ (Nat.digitChar k).toNat := by decide
  exact checked _ small

theorem unicodeEscape_printed (n : Nat) : Printed (unicodeEscape n) := by
  simp only [unicodeEscape, printed_cons]
  exact ⟨by decide, by decide, hexDigit_printed _, hexDigit_printed _, hexDigit_printed _,
    hexDigit_printed _, fun _ none => nomatch none⟩

theorem escapeUnicode_printed (c : Char) : Printed (escapeUnicode c) := by
  have pair : ∀ {d : Char}, 32 ≤ d.toNat → Printed ['\\', d] := by
    intro d printed
    exact printed_cons.mpr ⟨by decide, printed_cons.mpr ⟨printed, fun _ none => nomatch none⟩⟩
  unfold escapeUnicode
  split
  · exact pair (by decide)
  split
  · exact pair (by decide)
  split
  · exact pair (by decide)
  split
  · exact pair (by decide)
  split
  · exact pair (by decide)
  split
  · exact pair (by decide)
  split
  · exact pair (by decide)
  split
  · exact unicodeEscape_printed _
  · rename_i control
    exact printed_cons.mpr ⟨Nat.le_of_not_lt control, fun _ none => nomatch none⟩

theorem quoteUnicode_printed (s : String) : Printed (quoteUnicode s) := by
  refine printed_cons.mpr ⟨by decide, printed_append.mpr ⟨?_,
    printed_cons.mpr ⟨by decide, fun _ none => nomatch none⟩⟩⟩
  intro c among
  obtain ⟨d, -, escaped⟩ := List.mem_flatMap.mp among
  exact escapeUnicode_printed d c escaped

theorem length_escapeUnicode {c : Char} (printed : 32 ≤ c.toNat) :
    (escapeUnicode c).length = 1 + if doubled c = true then 1 else 0 := by
  by_cases quotes : c = '"'
  · subst quotes
    rfl
  by_cases slash : c = '\\'
  · subst slash
    rfl
  have single : doubled c = false := by simp [doubled, quotes, slash]
  have not_control : ∀ d : Char, d.toNat < 32 → c ≠ d := by
    rintro d control rfl
    omega
  rw [single, escapeUnicode, if_neg quotes, if_neg slash, if_neg (not_control '\n' (by decide)),
    if_neg (not_control '\r' (by decide)), if_neg (not_control '\t' (by decide)),
    if_neg (by omega), if_neg (by omega), if_neg (by omega)]
  rfl

theorem length_escaped {text : List Char} (printed : Printed text) :
    (text.flatMap escapeUnicode).length = text.length + text.countP doubled := by
  induction text with
  | nil => rfl
  | cons c text ih =>
    obtain ⟨here, rest⟩ := printed_cons.mp printed
    rw [List.flatMap_cons, List.length_append, length_escapeUnicode here, ih rest, List.countP_cons,
      List.length_cons]
    omega

theorem intercalate_printed {sep : List Char} (printed_sep : Printed sep) :
    ∀ {parts : List (List Char)}, (∀ part ∈ parts, Printed part) →
      Printed (List.intercalate sep parts)
  | [], _ => fun _ none => nomatch none
  | [part], each => by simpa [List.intercalate] using each part List.mem_cons_self
  | part :: next :: parts, each => by
    have later := intercalate_printed printed_sep
      (fun other among => each other (List.mem_cons_of_mem _ among) :
        ∀ other ∈ next :: parts, Printed other)
    simp only [List.intercalate, List.intersperse, List.flatten_cons] at later ⊢
    exact printed_append.mpr
      ⟨each part List.mem_cons_self, printed_append.mpr ⟨printed_sep, later⟩⟩

theorem digits_printed (n : Nat) : Printed n.repr.toList := by
  intro c among
  rw [Nat.toList_repr] at among
  have digit := Nat.isDigit_of_mem_toDigits (by decide) (by decide) among
  simp only [Char.isDigit, ge_iff_le, Bool.and_eq_true, decide_eq_true_eq] at digit
  have : 48 ≤ c.toNat := digit.1
  omega

theorem int_printed (n : Int) : Printed (toString n).toList := by
  show Printed (Int.repr n).toList
  cases n with
  | ofNat n => exact digits_printed n
  | negSucc n =>
    rw [Int.repr, String.toList_append]
    exact printed_append.mpr ⟨forall_mem_of_all (by decide), digits_printed _⟩

section
variable {float : Rat → String}

mutual

theorem dumpsUnicode_printed (printed_float : ∀ q, Printed (float q).toList) : ∀ x : Json, Printed (dumpsUnicode float x)
  | .null => by unfold dumpsUnicode; exact forall_mem_of_all (by decide)
  | .bool true => by unfold dumpsUnicode; exact forall_mem_of_all (by decide)
  | .bool false => by unfold dumpsUnicode; exact forall_mem_of_all (by decide)
  | .int n => by unfold dumpsUnicode; exact int_printed n
  | .float q => by unfold dumpsUnicode; exact printed_float q
  | .text s => by unfold dumpsUnicode; exact quoteUnicode_printed s
  | .list xs => by
    have parts := dumpEachUnicode_printed printed_float xs
    unfold dumpsUnicode
    exact printed_cons.mpr ⟨by decide, printed_append.mpr
      ⟨intercalate_printed (forall_mem_of_all (by decide)) parts, forall_mem_of_all (by decide)⟩⟩
  | .dict items => by
    have parts := dumpItemsUnicode_printed printed_float items
    unfold dumpsUnicode
    exact printed_cons.mpr ⟨by decide, printed_append.mpr
      ⟨intercalate_printed (forall_mem_of_all (by decide)) parts, forall_mem_of_all (by decide)⟩⟩

theorem dumpEachUnicode_printed (printed_float : ∀ q, Printed (float q).toList) :
    ∀ xs : List Json, ∀ part ∈ dumpEachUnicode float xs, Printed part
  | [] => fun _ none => nomatch none
  | x :: xs => by
    have here := dumpsUnicode_printed printed_float x
    have rest := dumpEachUnicode_printed printed_float xs
    unfold dumpEachUnicode
    exact List.forall_mem_cons.mpr ⟨here, rest⟩

theorem dumpItemsUnicode_printed (printed_float : ∀ q, Printed (float q).toList) :
    ∀ items : List (String × Json), ∀ part ∈ dumpItemsUnicode float items, Printed part
  | [] => fun _ none => nomatch none
  | (key, value) :: rest => by
    have here := dumpsUnicode_printed printed_float value
    have others := dumpItemsUnicode_printed printed_float rest
    unfold dumpItemsUnicode
    exact List.forall_mem_cons.mpr ⟨printed_append.mpr ⟨printed_append.mpr
      ⟨quoteUnicode_printed key, forall_mem_of_all (by decide)⟩, here⟩, others⟩

end

end

end Taroai.Json
