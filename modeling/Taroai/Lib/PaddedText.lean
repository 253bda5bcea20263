import Mathlib.Data.Int.Order.Basic
import Mathlib.Data.List.Basic
import Mathlib.Tactic.Linarith
import Mathlib.Tactic.Ring

/-! Numerals of a fixed width. Padded with zeros they compare as text the way the numbers
compare, and what follows them decides only between equal numbers. The same law for quotient
and remainder lets a text of several numerals be compared field by field. -/

namespace Taroai

theorem lt_iff_ediv_emod (a b k : Int) (pos : 0 < k) :
    a < b ↔ a / k < b / k ∨ a / k = b / k ∧ a % k < b % k := by
  have low := Int.emod_nonneg a (ne_of_gt pos)
  have low' := Int.emod_nonneg b (ne_of_gt pos)
  have high := Int.emod_lt_of_pos a pos
  have high' := Int.emod_lt_of_pos b pos
  have parts := Int.mul_ediv_add_emod a k
  have parts' := Int.mul_ediv_add_emod b k
  obtain less | same | more := lt_trichotomy (a / k) (b / k)
  · have step : k * (a / k + 1) ≤ k * (b / k) := Int.mul_le_mul_of_nonneg_left less pos.le
    rw [mul_add, mul_one] at step
    simp only [less, true_or, iff_true]
    omega
  · rw [same] at parts
    simp only [same, lt_irrefl, true_and, false_or]
    omega
  · have step : k * (b / k + 1) ≤ k * (a / k) := Int.mul_le_mul_of_nonneg_left more pos.le
    rw [mul_add, mul_one] at step
    have apart : ¬a / k < b / k := not_lt.mpr more.le
    simp only [apart, ne_of_gt more, false_and, or_false, iff_false]
    omega

theorem lt_iff_div_mod (a b k : Nat) (pos : 0 < k) :
    a < b ↔ a / k < b / k ∨ a / k = b / k ∧ a % k < b % k := by
  have law := lt_iff_ediv_emod a b k (by exact_mod_cast pos)
  exact_mod_cast law

/-- `%0*d` of a number of at most that many digits. -/
def padded : Nat → Nat → List Char
  | 0, _ => []
  | width + 1, n => Nat.digitChar (n / 10 ^ width) :: padded width (n % 10 ^ width)

theorem digitChar_lt {a b : Nat} (ha : a < 10) (hb : b < 10) :
    Nat.digitChar a < Nat.digitChar b ↔ a < b := by
  rw [Char.lt_def, UInt32.lt_iff_toNat_lt]
  change (Nat.digitChar a).toNat < (Nat.digitChar b).toNat ↔ a < b
  rw [Nat.toNat_digitChar_of_lt_ten ha, Nat.toNat_digitChar_of_lt_ten hb]
  omega

theorem digitChar_inj {a b : Nat} (ha : a < 10) (hb : b < 10) :
    Nat.digitChar a = Nat.digitChar b ↔ a = b := by
  constructor
  · intro same
    have codes := congrArg Char.toNat same
    rw [Nat.toNat_digitChar_of_lt_ten ha, Nat.toNat_digitChar_of_lt_ten hb] at codes
    omega
  · exact fun same => congrArg Nat.digitChar same

theorem padded_append_lt {width a b : Nat} (ha : a < 10 ^ width) (hb : b < 10 ^ width)
    (xs ys : List Char) :
    padded width a ++ xs < padded width b ++ ys ↔ a < b ∨ a = b ∧ xs < ys := by
  induction width generalizing a b with
  | zero =>
    rw [pow_zero, Nat.lt_one_iff] at ha hb
    simp [padded, ha, hb]
  | succ width ih =>
    have pos : 0 < 10 ^ width := Nat.pow_pos (by decide)
    rw [pow_succ] at ha hb
    have head := Nat.div_lt_of_lt_mul ha
    have head' := Nat.div_lt_of_lt_mul hb
    rw [padded, padded, List.cons_append, List.cons_append, List.cons_lt_cons_iff,
      digitChar_lt head head', digitChar_inj head head',
      ih (Nat.mod_lt _ pos) (Nat.mod_lt _ pos), lt_iff_div_mod a b _ pos]
    have whole : a = b ↔ a / 10 ^ width = b / 10 ^ width ∧ a % 10 ^ width = b % 10 ^ width := by
      constructor
      · rintro rfl
        exact ⟨rfl, rfl⟩
      · rintro ⟨quotients, remainders⟩
        rw [← Nat.div_add_mod a (10 ^ width), ← Nat.div_add_mod b (10 ^ width), quotients,
          remainders]
    rw [whole]
    tauto

def readPadded : Nat → List Char → Option (Nat × List Char)
  | 0, text => some (0, text)
  | _ + 1, [] => none
  | width + 1, c :: rest =>
    if 48 ≤ c.toNat ∧ c.toNat ≤ 57 then
      (readPadded width rest).map fun (n, rest) => ((c.toNat - 48) * 10 ^ width + n, rest)
    else none

theorem readPadded_padded {width n : Nat} (short : n < 10 ^ width) (rest : List Char) :
    readPadded width (padded width n ++ rest) = some (n, rest) := by
  induction width generalizing n with
  | zero =>
    rw [pow_zero, Nat.lt_one_iff] at short
    rw [short]
    rfl
  | succ width ih =>
    have pos : 0 < 10 ^ width := Nat.pow_pos (by decide)
    rw [pow_succ] at short
    have head := Nat.div_lt_of_lt_mul short
    have code : (Nat.digitChar (n / 10 ^ width)).toNat = 48 + n / 10 ^ width :=
      Nat.toNat_digitChar_of_lt_ten head
    have digit : ∀ d < 10, 48 ≤ (Nat.digitChar d).toNat ∧ (Nat.digitChar d).toNat ≤ 57 := by
      decide
    rw [padded, List.cons_append, readPadded, if_pos (digit _ head), ih (Nat.mod_lt _ pos), code,
      Option.map_some]
    dsimp only
    rw [Nat.add_sub_cancel_left, Nat.div_add_mod']

end Taroai
