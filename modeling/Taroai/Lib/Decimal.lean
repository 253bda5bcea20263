import Mathlib.Data.Rat.Floor
import Mathlib.Tactic.Linarith
import Mathlib.Tactic.FieldSimp
import Mathlib.Tactic.Ring

/-! Rounding of exact numbers to a number of decimals, halves to the even neighbour. -/

namespace Taroai

/-- The nearest integer, and of two nearest ones the even one. -/
def roundHalfEven (x : ℚ) : ℤ :=
  let fraction := x - ⌊x⌋
  if fraction < 1 / 2 then ⌊x⌋
  else if 1 / 2 < fraction then ⌊x⌋ + 1
  else if ⌊x⌋ % 2 = 0 then ⌊x⌋
  else ⌊x⌋ + 1

def roundDecimals (digits : Nat) (x : ℚ) : ℚ := roundHalfEven (x * 10 ^ digits) / 10 ^ digits

def HasDecimals (digits : Nat) (x : ℚ) : Prop := ∃ n : ℤ, x * 10 ^ digits = n

theorem roundHalfEven_intCast (n : ℤ) : roundHalfEven n = n := by
  simp [roundHalfEven]

theorem roundHalfEven_near (x : ℚ) : |(roundHalfEven x : ℚ) - x| ≤ 1 / 2 := by
  have low := Int.floor_le x
  have high := Int.lt_floor_add_one x
  unfold roundHalfEven
  simp only
  split_ifs <;> rw [abs_le] <;> push_cast <;> constructor <;> linarith

variable {digits : Nat} {x y : ℚ}

theorem hasDecimals_zero (digits : Nat) : HasDecimals digits 0 := ⟨0, by simp⟩

theorem HasDecimals.add (left : HasDecimals digits x) (right : HasDecimals digits y) :
    HasDecimals digits (x + y) := by
  obtain ⟨m, hm⟩ := left
  obtain ⟨n, hn⟩ := right
  exact ⟨m + n, by rw [add_mul, hm, hn, Int.cast_add]⟩

theorem HasDecimals.sum {amounts : List ℚ} (each : ∀ x ∈ amounts, HasDecimals digits x) :
    HasDecimals digits amounts.sum := by
  induction amounts with
  | nil => exact hasDecimals_zero digits
  | cons x amounts ih =>
    rw [List.sum_cons]
    exact (each x List.mem_cons_self).add (ih fun y member => each y (List.mem_cons_of_mem x member))

theorem HasDecimals.round_eq (whole : HasDecimals digits x) : roundDecimals digits x = x := by
  obtain ⟨n, hn⟩ := whole
  unfold roundDecimals
  rw [hn, roundHalfEven_intCast, ← hn]
  field_simp

theorem roundDecimals_zero (digits : Nat) : roundDecimals digits 0 = 0 :=
  (hasDecimals_zero digits).round_eq

theorem roundDecimals_near (digits : Nat) (x : ℚ) :
    |roundDecimals digits x - x| ≤ 1 / 2 / 10 ^ digits := by
  have positive : (0 : ℚ) < 10 ^ digits := by positivity
  have scaled : roundDecimals digits x - x =
      ((roundHalfEven (x * 10 ^ digits) : ℚ) - x * 10 ^ digits) / 10 ^ digits := by
    unfold roundDecimals
    field_simp
  rw [scaled, abs_div, abs_of_pos positive]
  exact div_le_div_of_nonneg_right (roundHalfEven_near _) positive.le

theorem hasDecimals_round (digits : Nat) (x : ℚ) : HasDecimals digits (roundDecimals digits x) := by
  refine ⟨roundHalfEven (x * 10 ^ digits), ?_⟩
  unfold roundDecimals
  field_simp

theorem roundDecimals_sum_near {β : Type*} (digits : Nat) (amount : β → ℚ) (xs : List β) :
    |(xs.map fun x => roundDecimals digits (amount x)).sum - (xs.map amount).sum| ≤
      xs.length * (1 / 2 / 10 ^ digits) := by
  induction xs with
  | nil => simp
  | cons x xs ih =>
    have here := abs_le.mp (roundDecimals_near digits (amount x))
    have rest := abs_le.mp ih
    have count : ((x :: xs).length : ℚ) = xs.length + 1 := by
      rw [List.length_cons, Nat.cast_succ]
    rw [List.map_cons, List.map_cons, List.sum_cons, List.sum_cons, count, add_mul, one_mul, abs_le]
    constructor <;> linarith

end Taroai
