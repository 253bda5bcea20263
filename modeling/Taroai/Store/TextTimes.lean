import Taroai.Lib.PaddedText
import Taroai.Triggers.Cron

/-! How the SQL repository writes an instant: `isoformat` of a UTC datetime. The fraction is
left out when it is zero, so texts differ in length. The text order is that of the instants:
each field has a fixed width, and the `+` of the offset comes before the `.` of a fraction. -/

namespace Taroai.Store

open Triggers

/-- What a `datetime` can hold: the years 1 to 9999. -/
def Representable (t : Time) : Prop := -719162 * day ≤ t ∧ t < 2932897 * day

instance (t : Time) : Decidable (Representable t) := inferInstanceAs (Decidable (_ ∧ _))

def fraction (microsecond : Nat) : List Char :=
  if microsecond = 0 then [] else '.' :: padded 6 microsecond

/-- `_dt`: the `isoformat` of a datetime in UTC. -/
def isoformat (t : Time) : String :=
  let date := dateOf t
  String.ofList
    (padded 4 date.year.toNat ++ '-' :: (padded 2 date.month.toNat ++ '-' ::
      (padded 2 date.day.toNat ++ 'T' :: (padded 2 (t % day / hour).toNat ++ ':' ::
        (padded 2 (t % hour / minute).toNat ++ ':' :: (padded 2 (t % minute / seconds 1).toNat ++
          (fraction (t % seconds 1).toNat ++ ['+', '0', '0', ':', '0', '0'])))))))

/-- The offset of an aware datetime, as `isoformat` writes it. -/
def offsetText : Option Int → List Char
  | none => []
  | some offset =>
    let size : Int := offset.natAbs
    let second := (size % minute / seconds 1).toNat
    let microsecond := (size % seconds 1).toNat
    (if offset < 0 then '-' else '+') ::
      (padded 2 (size / hour).toNat ++ ':' :: (padded 2 (size % hour / minute).toNat ++
        if second = 0 ∧ microsecond = 0 then [] else
          ':' :: (padded 2 second ++ fraction microsecond)))

/-- `isoformat` of any datetime: what its fields read, and its offset. -/
def isoformatOf (value : DateTime) : String :=
  let t := value.reading
  let date := dateOf t
  String.ofList
    (padded 4 date.year.toNat ++ '-' :: (padded 2 date.month.toNat ++ '-' ::
      (padded 2 date.day.toNat ++ 'T' :: (padded 2 (t % day / hour).toNat ++ ':' ::
        (padded 2 (t % hour / minute).toNat ++ ':' :: (padded 2 (t % minute / seconds 1).toNat ++
          (fraction (t % seconds 1).toNat ++ offsetText value.utcOffset)))))))

example : isoformatOf ⟨20636 * day, some (-8 * hour)⟩ = "2026-07-02T00:00:00-08:00" := by
  decide +kernel
example : isoformat (20636 * day + 9 * hour) = "2026-07-02T09:00:00+00:00" := by decide +kernel
example : isoformat (20636 * day + 40) = "2026-07-02T00:00:00.000040+00:00" := by decide +kernel

section Calendar

def daysBeforeYear (year : Int) : Int :=
  (year - 1) * 365 + (year - 1) / 4 - (year - 1) / 100 + (year - 1) / 400

theorem sum_monthLengths (year : Int) : (monthLengths year).sum = if isLeap year then 366 else 365 := by
  unfold monthLengths
  cases isLeap year <;> decide

theorem daysBeforeYear_next (year : Int) :
    daysBeforeYear (year + 1) = daysBeforeYear year + (monthLengths year).sum := by
  rw [sum_monthLengths]
  unfold daysBeforeYear isLeap
  by_cases four : year % 4 = 0 <;> by_cases hundred : year % 100 = 0 <;>
    by_cases whole : year % 400 = 0 <;> simp [four, hundred, whole] <;> omega

theorem daysBeforeYear_mono {year year' : Int} (le : year ≤ year') :
    daysBeforeYear year ≤ daysBeforeYear year' := by
  unfold daysBeforeYear
  omega

theorem daysBeforeYear_cycles {a b c d : Int} (centuries : 0 ≤ b ∧ b ≤ 3) (fours : 0 ≤ c ∧ c ≤ 24)
    (years : 0 ≤ d ∧ d ≤ 3) :
    daysBeforeYear (a * 400 + b * 100 + c * 4 + d + 1) =
      a * 146097 + b * 36524 + c * 1461 + d * 365 := by
  unfold daysBeforeYear
  rw [add_sub_cancel_right]
  have leaps : (a * 400 + b * 100 + c * 4 + d) / 4 = a * 100 + b * 25 + c := by omega
  have skipped : (a * 400 + b * 100 + c * 4 + d) / 100 = a * 4 + b := by omega
  have kept : (a * 400 + b * 100 + c * 4 + d) / 400 = a := by omega
  rw [leaps, skipped, kept]
  ring

theorem monthAndDay_spec (month : Int) (lengths : List Int) (n : Int) (low : 0 ≤ n)
    (high : n < lengths.sum) :
    month ≤ (monthAndDay month lengths n).1 ∧
      (monthAndDay month lengths n).1 < month + lengths.length ∧
      1 ≤ (monthAndDay month lengths n).2 ∧
      ∃ length ∈ lengths, (monthAndDay month lengths n).2 ≤ length := by
  induction lengths generalizing month n with
  | nil =>
    rw [List.sum_nil] at high
    omega
  | cons length rest ih =>
    rw [List.sum_cons] at high
    rw [monthAndDay, List.length_cons]
    by_cases here : n < length
    · rw [if_pos here]
      push_cast
      exact ⟨le_rfl, by omega, by omega, length, List.mem_cons_self, here⟩
    · rw [if_neg here]
      obtain ⟨after, before, first, last, member, bound⟩ :=
        ih (month + 1) (n - length) (by omega) (by omega)
      push_cast
      exact ⟨by omega, by omega, first, last, List.mem_cons_of_mem _ member, bound⟩

theorem monthAndDay_lt (month : Int) (lengths : List Int) (n n' : Int) (low : 0 ≤ n)
    (low' : 0 ≤ n') (high : n < lengths.sum) (high' : n' < lengths.sum) :
    n < n' ↔ (monthAndDay month lengths n).1 < (monthAndDay month lengths n').1 ∨
      (monthAndDay month lengths n).1 = (monthAndDay month lengths n').1 ∧
      (monthAndDay month lengths n).2 < (monthAndDay month lengths n').2 := by
  induction lengths generalizing month n n' with
  | nil =>
    rw [List.sum_nil] at high
    omega
  | cons length rest ih =>
    rw [List.sum_cons] at high high'
    rw [monthAndDay, monthAndDay]
    by_cases here : n < length <;> by_cases here' : n' < length
    · rw [if_pos here, if_pos here']
      dsimp only
      omega
    · have later := (monthAndDay_spec (month + 1) rest (n' - length) (by omega) (by omega)).1
      rw [if_pos here, if_neg here']
      dsimp only
      omega
    · have later := (monthAndDay_spec (month + 1) rest (n - length) (by omega) (by omega)).1
      rw [if_neg here, if_pos here']
      dsimp only
      omega
    · rw [if_neg here, if_neg here',
        ← ih (month + 1) (n - length) (n' - length) (by omega) (by omega) (by omega) (by omega)]
      omega

theorem dateOfOrdinal_spec (n : Int) :
    ∃ r, n = daysBeforeYear (dateOfOrdinal n).year + r ∧ 0 ≤ r ∧
      r < (monthLengths (dateOfOrdinal n).year).sum ∧
      monthAndDay 1 (monthLengths (dateOfOrdinal n).year) r =
        ((dateOfOrdinal n).month, (dateOfOrdinal n).day) := by
  generalize whole : dateOfOrdinal n = date
  unfold dateOfOrdinal at whole
  simp only at whole
  by_cases last : n % 146097 % 36524 % 1461 / 365 = 4 ∨ n % 146097 / 36524 = 4
  · -- the last day of a leap year
    rw [if_pos last] at whole
    subst whole
    have leap : isLeap (n / 146097 * 400 + n % 146097 / 36524 * 100 +
        n % 146097 % 36524 / 1461 * 4 + n % 146097 % 36524 % 1461 / 365) = true := by
      unfold isLeap
      simp only [Bool.and_eq_true, Bool.or_eq_true, decide_eq_true_eq]
      omega
    refine ⟨365, ?_, by omega, ?_, ?_⟩
    · dsimp only
      rw [add_sub_cancel_right]
      by_cases full : n % 146097 / 36524 = 4
      · have cycles := daysBeforeYear_cycles (a := n / 146097) (b := 3) (c := 24) (d := 3)
          (by omega) (by omega) (by omega)
        have year : n / 146097 * 400 + n % 146097 / 36524 * 100 + n % 146097 % 36524 / 1461 * 4 +
            n % 146097 % 36524 % 1461 / 365 = n / 146097 * 400 + 3 * 100 + 24 * 4 + 3 + 1 := by
          omega
        rw [year, cycles]
        omega
      · have cycles := daysBeforeYear_cycles (a := n / 146097) (b := n % 146097 / 36524)
          (c := n % 146097 % 36524 / 1461) (d := 3) (by omega) (by omega) (by omega)
        have year : n / 146097 * 400 + n % 146097 / 36524 * 100 + n % 146097 % 36524 / 1461 * 4 +
            n % 146097 % 36524 % 1461 / 365 = n / 146097 * 400 + n % 146097 / 36524 * 100 +
            n % 146097 % 36524 / 1461 * 4 + 3 + 1 := by
          omega
        rw [year, cycles]
        omega
    · rw [add_sub_cancel_right, sum_monthLengths, leap]
      decide
    · rw [add_sub_cancel_right, monthLengths, leap]
      rfl
  · rw [if_neg last] at whole
    subst whole
    rw [not_or] at last
    refine ⟨n % 146097 % 36524 % 1461 % 365, ?_, by omega, ?_, rfl⟩
    · dsimp only
      rw [daysBeforeYear_cycles (by omega) (by omega) (by omega)]
      omega
    · rw [sum_monthLengths]
      split <;> omega

theorem dateOfOrdinal_lt (n n' : Int) :
    n < n' ↔ (dateOfOrdinal n).year < (dateOfOrdinal n').year ∨
      (dateOfOrdinal n).year = (dateOfOrdinal n').year ∧
      ((dateOfOrdinal n).month < (dateOfOrdinal n').month ∨
        (dateOfOrdinal n).month = (dateOfOrdinal n').month ∧
        (dateOfOrdinal n).day < (dateOfOrdinal n').day) := by
  obtain ⟨r, ordinal, low, high, fields⟩ := dateOfOrdinal_spec n
  obtain ⟨r', ordinal', low', high', fields'⟩ := dateOfOrdinal_spec n'
  have apart {y y' r r' : Int} (less : y < y') (short : r < (monthLengths y).sum) (pos : 0 ≤ r') :
      daysBeforeYear y + r < daysBeforeYear y' + r' := by
    have next := daysBeforeYear_mono (Int.add_one_le_of_lt less)
    rw [daysBeforeYear_next] at next
    omega
  obtain less | same | more := lt_trichotomy (dateOfOrdinal n).year (dateOfOrdinal n').year
  · have := apart less high low'
    simp only [less, true_or, iff_true]
    omega
  · rw [← same] at ordinal' high' fields'
    have months := monthAndDay_lt 1 (monthLengths (dateOfOrdinal n).year) r r' low low' high high'
    rw [fields, fields'] at months
    rw [← same, lt_self_iff_false, false_or]
    simp only [true_and]
    rw [← months]
    omega
  · have := apart more high' low
    simp only [more.not_gt, ne_of_gt more, false_and, or_false, iff_false]
    omega

theorem mem_monthLengths {year length : Int} (member : length ∈ monthLengths year) :
    length ≤ 31 := by
  unfold monthLengths at member
  cases leap : isLeap year <;> rw [leap] at member <;> revert length <;> decide

theorem date_bounds (t : Time) (held : Representable t) :
    (1 ≤ (dateOf t).year ∧ (dateOf t).year < 10000) ∧ (1 ≤ (dateOf t).month ∧ (dateOf t).month ≤ 12) ∧
      1 ≤ (dateOf t).day ∧ (dateOf t).day ≤ 31 := by
  obtain ⟨r, ordinal, low, high, fields⟩ := dateOfOrdinal_spec (epochOrdinal + t / day)
  obtain ⟨from_one, months, first, length, member, last⟩ := monthAndDay_spec 1 _ r low high
  rw [fields] at from_one months first last
  have twelve : (monthLengths (dateOfOrdinal (epochOrdinal + t / day)).year).length = 12 := rfl
  rw [twelve] at months
  refine ⟨?_, ⟨from_one, Int.le_of_lt_add_one months⟩, first, last.trans (mem_monthLengths member)⟩
  have from_start : (-719162 * 86400000000 : Int) ≤ t := held.1
  have to_end : ¬(2932897 * 86400000000 : Int) ≤ t := not_le.mpr held.2
  have day_eq : day = (86400000000 : Int) := rfl
  have within : 0 ≤ epochOrdinal + t / day ∧ epochOrdinal + t / day < 3652059 := by
    rw [day_eq]
    unfold epochOrdinal
    omega
  have leap : (monthLengths (dateOf t).year).sum ≤ 366 := by
    rw [sum_monthLengths]
    split <;> omega
  change epochOrdinal + t / day = daysBeforeYear (dateOf t).year + r at ordinal
  change r < (monthLengths (dateOf t).year).sum at high
  constructor
  · by_contra early
    have before : daysBeforeYear (dateOf t).year ≤ -366 :=
      @daysBeforeYear_mono _ 0 (Int.le_of_lt_add_one (not_le.mp early))
    omega
  · by_contra late
    have after : 3652059 ≤ daysBeforeYear (dateOf t).year :=
      @daysBeforeYear_mono 10000 _ (not_lt.mp late)
    omega

end Calendar

section Order

theorem fraction_append_lt {u v : Nat} (hu : u < 10 ^ 6) (hv : v < 10 ^ 6) (zone : List Char) :
    fraction u ++ '+' :: zone < fraction v ++ '+' :: zone ↔ u < v := by
  unfold fraction
  by_cases whole : u = 0 <;> by_cases whole' : v = 0
  · simp [whole, whole']
  · rw [if_pos whole, if_neg whole', List.nil_append, List.cons_append, List.cons_lt_cons_iff]
    have before : '+' < '.' := by decide
    simp only [before, true_or, true_iff]
    omega
  · rw [if_neg whole, if_pos whole', List.nil_append, List.cons_append, List.cons_lt_cons_iff]
    have before : ¬ '.' < '+' := by decide
    have apart : '.' ≠ '+' := by decide
    simp only [before, apart, false_and, or_self, false_iff]
    omega
  · rw [if_neg whole, if_neg whole', List.cons_append, List.cons_append, List.cons_lt_cons_self,
      padded_append_lt hu hv]
    simp

theorem toNat_lt_iff {a b : Int} (ha : 0 ≤ a) (hb : 0 ≤ b) : a.toNat < b.toNat ↔ a < b := by
  omega

theorem padded_toNat_lt {width : Nat} {a b : Int} (ha : 0 ≤ a ∧ a < 10 ^ width)
    (hb : 0 ≤ b ∧ b < 10 ^ width) (xs ys : List Char) :
    padded width a.toNat ++ xs < padded width b.toNat ++ ys ↔ a < b ∨ a = b ∧ xs < ys := by
  have short {c : Int} (hc : 0 ≤ c ∧ c < 10 ^ width) : c.toNat < 10 ^ width := by
    have value := Int.toNat_of_nonneg hc.1
    have bound := hc.2
    rw [← value] at bound
    exact_mod_cast bound
  have same : a.toNat = b.toNat ↔ a = b := by omega
  rw [padded_append_lt (short ha) (short hb), toNat_lt_iff ha.1 hb.1, same]

theorem field_lt {width : Nat} {a b : Int} (ha : 0 ≤ a ∧ a < 10 ^ width)
    (hb : 0 ≤ b ∧ b < 10 ^ width) (separator : Char) (xs ys : List Char) :
    padded width a.toNat ++ separator :: xs < padded width b.toNat ++ separator :: ys ↔
      a < b ∨ a = b ∧ xs < ys := by
  rw [padded_toNat_lt ha hb, List.cons_lt_cons_self]

theorem time_lt (t t' : Int) :
    t < t' ↔ t / day < t' / day ∨ t / day = t' / day ∧
      (t % day / hour < t' % day / hour ∨ t % day / hour = t' % day / hour ∧
        (t % hour / minute < t' % hour / minute ∨ t % hour / minute = t' % hour / minute ∧
          (t % minute / seconds 1 < t' % minute / seconds 1 ∨
            t % minute / seconds 1 = t' % minute / seconds 1 ∧
              t % seconds 1 < t' % seconds 1))) := by
  have minutes (u : Int) : u % minute % seconds 1 = u % seconds 1 := Int.emod_emod_of_dvd u ⟨60, rfl⟩
  have hours (u : Int) : u % hour % minute = u % minute := Int.emod_emod_of_dvd u ⟨60, rfl⟩
  have days (u : Int) : u % day % hour = u % hour := Int.emod_emod_of_dvd u ⟨24, rfl⟩
  rw [lt_iff_ediv_emod t t' day (by decide), lt_iff_ediv_emod (t % day) (t' % day) hour (by decide),
    days, days, lt_iff_ediv_emod (t % hour) (t' % hour) minute (by decide), hours, hours,
    lt_iff_ediv_emod (t % minute) (t' % minute) (seconds 1) (by decide), minutes, minutes]

theorem dateOf_lt (t t' : Time) :
    t / day < t' / day ↔ (dateOf t).year < (dateOf t').year ∨
      (dateOf t).year = (dateOf t').year ∧ ((dateOf t).month < (dateOf t').month ∨
        (dateOf t).month = (dateOf t').month ∧ (dateOf t).day < (dateOf t').day) := by
  unfold dateOf
  rw [← dateOfOrdinal_lt, add_lt_add_iff_left]

theorem dateOf_congr {t t' : Time} : t / day = t' / day ↔ (dateOf t).year = (dateOf t').year ∧
    (dateOf t).month = (dateOf t').month ∧ (dateOf t).day = (dateOf t').day := by
  have less := dateOf_lt t t'
  have more := dateOf_lt t' t
  constructor
  · intro same
    unfold dateOf
    rw [same]
    exact ⟨rfl, rfl, rfl⟩
  · rintro ⟨year, month, date⟩
    rw [year, month, date] at less more
    simp only [lt_self_iff_false, and_false, or_false, iff_false, not_lt] at less more
    exact le_antisymm more less

theorem clock_bound (u : Int) {unit limit : Int} (pos : 0 < unit) (whole : unit * 100 ≥ limit)
    (below : u < limit) (low : 0 ≤ u) : 0 ≤ u / unit ∧ u / unit < 10 ^ 2 := by
  constructor
  · exact Int.ediv_nonneg low pos.le
  · refine Int.ediv_lt_of_lt_mul pos ?_
    omega

theorem isoformat_lt {t t' : Time} (ht : Representable t) (ht' : Representable t') :
    isoformat t < isoformat t' ↔ t < t' := by
  obtain ⟨year, month, date⟩ := date_bounds t ht
  obtain ⟨year', month', date'⟩ := date_bounds t' ht'
  have clock (u : Int) : (0 ≤ u % day / hour ∧ u % day / hour < 10 ^ 2) ∧
      (0 ≤ u % hour / minute ∧ u % hour / minute < 10 ^ 2) ∧
      0 ≤ u % minute / seconds 1 ∧ u % minute / seconds 1 < 10 ^ 2 := by
    refine ⟨clock_bound _ (by decide) (by decide) (Int.emod_lt_of_pos u (by decide))
      (Int.emod_nonneg u (by decide)), clock_bound _ (by decide) (by decide)
      (Int.emod_lt_of_pos u (by decide)) (Int.emod_nonneg u (by decide)), clock_bound _ (by decide)
      (by decide) (Int.emod_lt_of_pos u (by decide)) (Int.emod_nonneg u (by decide))⟩
  have micros (u : Int) : 0 ≤ u % seconds 1 ∧ (u % seconds 1).toNat < 10 ^ 6 := by
    have low := Int.emod_nonneg u (b := seconds 1) (by decide)
    have high := Int.emod_lt_of_pos u (b := seconds 1) (by decide)
    unfold seconds at low high ⊢
    omega
  have fractions := toNat_lt_iff (micros t).1 (micros t').1
  unfold isoformat
  dsimp only
  rw [String.lt_iff, String.toList_ofList, String.toList_ofList,
    field_lt ⟨by omega, by omega⟩ ⟨by omega, by omega⟩, field_lt ⟨by omega, by omega⟩ ⟨by omega, by omega⟩,
    field_lt ⟨by omega, by omega⟩ ⟨by omega, by omega⟩, field_lt (clock t).1 (clock t').1,
    field_lt (clock t).2.1 (clock t').2.1, padded_toNat_lt (clock t).2.2 (clock t').2.2,
    fraction_append_lt (micros t).2 (micros t').2, fractions, time_lt t t', dateOf_lt, dateOf_congr]
  simp only [and_or_left, or_assoc, and_assoc]

end Order

end Taroai.Store
