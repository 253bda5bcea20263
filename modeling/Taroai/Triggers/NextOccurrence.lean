import Taroai.Lib.Json
import Taroai.Store.TextTimes

/-! `next_after` on datetimes that hold only the years 1 to 9999: an instant, a reading or the end
of the search that lies outside raises `OverflowError`. -/

namespace Taroai.Triggers

open Store

inductive CronError where
  | overflow
  | noOccurrence
deriving DecidableEq, Repr

def held (t : Time) : Except CronError Time := if Representable t then .ok t else .error .overflow

theorem held_ok {t t' : Time} : held t = .ok t' ↔ Representable t ∧ t = t' := by
  unfold held
  split
  · next here => simp [here]
  · next outside => simp [outside]

theorem representable_between {a b c : Int} (first : Representable a) (last : Representable c)
    (low : a ≤ b) (high : b ≤ c) : Representable b :=
  ⟨first.1.trans low, lt_of_le_of_lt high last.2⟩

namespace CronSchedule

variable (cron : CronSchedule)

/-- The loop of `next_after`; a candidate that is passed over is advanced at once. -/
def searchHeld : Nat → Time → Except CronError Time
  | 0, _ => .error .noOccurrence
  | left + 1, candidate =>
    if cron.matchesReading candidate then .ok candidate
    else do searchHeld left (← held (candidate + minute))

def lastCandidate (reading : Time) : Time := floorMinute reading + minute + 366 * 5 * day

/-- `next_after`. -/
def nextAfterHeld (value : Time) (zone : Zone) : Except CronError Time := do
  let localValue ← held (zone.toLocal (← held value))
  let first ← held (floorMinute localValue + minute)
  let _ ← held (lastCandidate localValue)
  let candidate ← cron.searchHeld candidates first
  held (zone.toUtc candidate)

/-- `next_at_or_after`. -/
def nextAtOrAfterHeld (value : Time) (zone : Zone) : Except CronError Time := do
  let candidate ← cron.nextAfterHeld (← held (value - minute)) zone
  if candidate < value then cron.nextAfterHeld value zone else return candidate

variable {cron}

theorem search_of_searchHeld {left : Nat} {first found : Int}
    (ran : cron.searchHeld left first = .ok found) : cron.search left first = some found := by
  induction left generalizing first with
  | zero => cases ran
  | succ left ih =>
    rw [searchHeld] at ran
    rw [search]
    split
    · next here =>
      rw [if_pos here] at ran
      exact congrArg some (Except.ok.inj ran)
    · next passed =>
      rw [if_neg passed] at ran
      obtain ⟨next, advanced, ran⟩ := Json.except_bind_ok.mp ran
      obtain ⟨-, rfl⟩ := held_ok.mp advanced
      exact ih ran

theorem searchHeld_of_search {left : Nat} {first found : Int} (start : Representable first)
    (stop : Representable found) (ran : cron.search left first = some found) :
    cron.searchHeld left first = .ok found := by
  induction left generalizing first with
  | zero => cases ran
  | succ left ih =>
    rw [search] at ran
    rw [searchHeld]
    split
    · next here =>
      rw [if_pos here] at ran
      exact congrArg Except.ok (Option.some.inj ran)
    · next passed =>
      rw [if_neg passed] at ran
      have next : Representable (first + minute) := by
        obtain ⟨k, reached, -, -⟩ := search_eq_some ran
        have low : first ≤ first + minute := by
          change first ≤ first + 60000000
          omega
        exact representable_between start stop low (reached ▸ first_le_candidate _ k)
      rw [held_ok.mpr ⟨next, rfl⟩]
      exact ih next ran

theorem search_isSome {left k : Nat} {first : Int} (within : k < left)
    (shown : cron.matchesReading (first + k * minute) = true) :
    ∃ found, cron.search left first = some found := by
  induction left generalizing first k with
  | zero => exact absurd within (Nat.not_lt_zero k)
  | succ left ih =>
    rw [search]
    split
    · exact ⟨first, rfl⟩
    · next passed =>
      cases k with
      | zero =>
        rw [Int.natCast_zero, zero_mul, add_zero] at shown
        exact absurd shown passed
      | succ k =>
        refine ih (Nat.lt_of_succ_lt_succ within) ?_
        have same : first + minute + k * minute = first + (k + 1 : Nat) * minute := by
          change first + 60000000 + k * (60000000 : Int) = first + (k + 1 : Nat) * 60000000
          omega
        rwa [same]

theorem search_lt {left : Nat} {first found : Int} (ran : cron.search left first = some found) :
    found < first + left * minute := by
  induction left generalizing first with
  | zero => cases ran
  | succ left ih =>
    rw [search] at ran
    split at ran
    · cases ran
      change found < found + (left + 1 : Nat) * (60000000 : Int)
      omega
    · have later := ih ran
      change found < first + 60000000 + left * (60000000 : Int) at later
      change found < first + (left + 1 : Nat) * (60000000 : Int)
      omega

theorem le_lastCandidate_iff (reading : Int) (k : Nat) :
    floorMinute reading + minute + k * minute ≤ lastCandidate reading ↔ k < candidates := by
  obtain ⟨first, same⟩ : ∃ first : Int, first = floorMinute reading + minute := ⟨_, rfl⟩
  rw [lastCandidate, ← same]
  change first + k * (60000000 : Int) ≤ first + 158112000000000 ↔ k < 2635201
  omega

theorem found_le_last {reading found : Int}
    (ran : cron.search candidates (floorMinute reading + minute) = some found) :
    found ≤ lastCandidate reading := by
  obtain ⟨k, reached, -, -⟩ := search_eq_some ran
  have before := search_lt ran
  rw [reached, Int.add_lt_add_iff_left] at before
  rw [reached, le_lastCandidate_iff]
  exact Int.ofNat_lt.mp (lt_of_mul_lt_mul_right before (by decide))

structure Searched (cron : CronSchedule) (zone : Zone) (value found : Time) : Prop where
  instant : Representable value
  shown : Representable (zone.toLocal value)
  last : Representable (lastCandidate (zone.toLocal value))
  searched : cron.search candidates (floorMinute (zone.toLocal value) + minute) = some found
  result : Representable (zone.toUtc found)

theorem nextAfterHeld_ok {value t : Time} {zone : Zone} :
    cron.nextAfterHeld value zone = .ok t ↔
      ∃ found, cron.Searched zone value found ∧ zone.toUtc found = t := by
  unfold nextAfterHeld
  constructor
  · intro ran
    obtain ⟨_, first, ran⟩ := Json.except_bind_ok.mp ran
    obtain ⟨instant, rfl⟩ := held_ok.mp first
    obtain ⟨_, second, ran⟩ := Json.except_bind_ok.mp ran
    obtain ⟨shown, rfl⟩ := held_ok.mp second
    obtain ⟨_, third, ran⟩ := Json.except_bind_ok.mp ran
    obtain ⟨-, rfl⟩ := held_ok.mp third
    obtain ⟨_, fourth, ran⟩ := Json.except_bind_ok.mp ran
    obtain ⟨last, rfl⟩ := held_ok.mp fourth
    obtain ⟨found, searched, ran⟩ := Json.except_bind_ok.mp ran
    obtain ⟨result, rfl⟩ := held_ok.mp ran
    exact ⟨found, ⟨instant, shown, last, search_of_searchHeld searched, result⟩, rfl⟩
  · rintro ⟨found, ⟨instant, shown, last, searched, result⟩, rfl⟩
    have start : Representable (floorMinute (zone.toLocal value) + minute) := by
      refine representable_between shown last (lt_floorMinute _).le ?_
      exact Int.le_add_of_nonneg_right (by decide)
    have stop : Representable found := by
      obtain ⟨k, reached, -, -⟩ := search_eq_some searched
      exact representable_between start last (reached ▸ first_le_candidate _ k)
        (found_le_last searched)
    refine Json.except_bind_ok.mpr ⟨_, held_ok.mpr ⟨instant, rfl⟩, ?_⟩
    refine Json.except_bind_ok.mpr ⟨_, held_ok.mpr ⟨shown, rfl⟩, ?_⟩
    refine Json.except_bind_ok.mpr ⟨_, held_ok.mpr ⟨start, rfl⟩, ?_⟩
    refine Json.except_bind_ok.mpr ⟨_, held_ok.mpr ⟨last, rfl⟩, ?_⟩
    refine Json.except_bind_ok.mpr ⟨_, searchHeld_of_search start stop searched, ?_⟩
    exact held_ok.mpr ⟨result, rfl⟩

theorem Searched.nextAfter {value found : Time} {zone : Zone} (ran : cron.Searched zone value found) :
    cron.nextAfter value zone = .ok (zone.toUtc found) := by
  unfold CronSchedule.nextAfter
  rw [ran.searched]

section FixedZone

variable {offset : Int}

structure NextOccurrence (cron : CronSchedule) (zone : Zone) (value t : Time) : Prop where
  later : value < t
  occurs : cron.Occurs zone t
  least : ∀ u : Time, cron.Occurs zone u → value < u → t ≤ u

structure OccursInWindow (cron : CronSchedule) (zone : Zone) (value t : Time) : Prop where
  later : value < t
  occurs : cron.Occurs zone t
  inWindow : zone.toLocal t ≤ lastCandidate (zone.toLocal value)

/-- The datetimes that `next_after` computes lie in the years 1 to 9999. -/
structure WithinYears (cron : CronSchedule) (zone : Zone) (value : Time) : Prop where
  instant : Representable value
  shown : Representable (zone.toLocal value)
  last : Representable (lastCandidate (zone.toLocal value))
  result : ∀ t, cron.NextOccurrence zone value t → cron.OccursInWindow zone value t →
    Representable t

theorem Searched.next {value found : Int} (ran : cron.Searched (Zone.fixed offset) value found) :
    cron.NextOccurrence (Zone.fixed offset) value ((Zone.fixed offset).toUtc found) := by
  obtain ⟨later, occurs, least⟩ := nextAfter_fixed ran.nextAfter
  exact ⟨later, occurs, least⟩

theorem Searched.inWindow {value found : Int} (ran : cron.Searched (Zone.fixed offset) value found) :
    cron.OccursInWindow (Zone.fixed offset) value ((Zone.fixed offset).toUtc found) := by
  refine ⟨ran.next.later, ran.next.occurs, ?_⟩
  have clock : (Zone.fixed offset).toLocal ((Zone.fixed offset).toUtc found) = found :=
    Int.sub_add_cancel found offset
  rw [clock]
  exact found_le_last ran.searched

theorem nextAfterHeld_returns {value : Int} :
    (∃ t, cron.nextAfterHeld value (Zone.fixed offset) = .ok t) ↔
      (∃ t, cron.OccursInWindow (Zone.fixed offset) value t) ∧
        cron.WithinYears (Zone.fixed offset) value := by
  constructor
  · rintro ⟨t, ran⟩
    obtain ⟨found, searched, rfl⟩ := nextAfterHeld_ok.mp ran
    refine ⟨⟨_, searched.inWindow⟩, searched.instant, searched.shown, searched.last, ?_⟩
    intro u next _
    have same : u = (Zone.fixed offset).toUtc found :=
      le_antisymm (next.least _ searched.next.occurs searched.next.later)
        (searched.next.least _ next.occurs next.later)
    rw [same]
    exact searched.result
  · rintro ⟨⟨u, later, occurs, inWindow⟩, years⟩
    obtain ⟨k, same⟩ := candidate_of_whole occurs.whole (Int.add_lt_add_right later offset)
    have among : k < candidates := by
      rw [← le_lastCandidate_iff ((Zone.fixed offset).toLocal value)]
      exact same ▸ inWindow
    obtain ⟨found, ran⟩ := search_isSome among (same ▸ occurs.shown)
    have returns : cron.nextAfter value (Zone.fixed offset) = .ok ((Zone.fixed offset).toUtc found) := by
      unfold CronSchedule.nextAfter
      rw [toLocal_fixed, ran]
    obtain ⟨after, at_found, least⟩ := nextAfter_fixed returns
    have clock : (Zone.fixed offset).toLocal ((Zone.fixed offset).toUtc found) = found :=
      Int.sub_add_cancel found offset
    have result := years.result _ ⟨after, at_found, least⟩
      ⟨after, at_found, clock.symm ▸ found_le_last ran⟩
    exact ⟨_, nextAfterHeld_ok.mpr ⟨found, ⟨years.instant, years.shown, years.last, ran, result⟩, rfl⟩⟩

/-- In a zone of one offset `next_after` returns the first occurrence after the instant, and it
raises where there is none in its window or where a datetime would leave the years 1 to 9999. -/
theorem nextAfterHeld_fixed (cron : CronSchedule) (offset value : Time) :
    (∀ t, cron.nextAfterHeld value (Zone.fixed offset) = .ok t →
      cron.NextOccurrence (Zone.fixed offset) value t) ∧
    ((∃ error, cron.nextAfterHeld value (Zone.fixed offset) = .error error) ↔
      (¬∃ t, cron.OccursInWindow (Zone.fixed offset) value t) ∨
        ¬cron.WithinYears (Zone.fixed offset) value) := by
  constructor
  · intro t ran
    obtain ⟨found, searched, rfl⟩ := nextAfterHeld_ok.mp ran
    exact searched.next
  · rw [← not_and_or, ← nextAfterHeld_returns]
    cases cron.nextAfterHeld value (Zone.fixed offset) with
    | ok t => simp
    | error error => simp

/-- What `0 12 * * *` parses to. -/
def noon : CronSchedule where
  minutes := [0]
  hours := [12]
  daysOfMonth := (List.range 31).map fun i => 1 + (i : Int)
  months := (List.range 12).map fun i => 1 + (i : Int)
  daysOfWeek := ((List.range 8).map fun i => 0 + (i : Int)).map fun value =>
    if value = 7 then 0 else value
  dayOfMonthRestricted := false
  dayOfWeekRestricted := false

theorem parse_noon : CronSchedule.parse "0 12 * * *" = .ok noon := by
  have fields : splitFields "0 12 * * *".toList = [['0'], ['1', '2'], ['*'], ['*'], ['*']] := by
    decide
  rw [CronSchedule.parse, fields]
  rfl

theorem nextAfterHeld_noon :
    noon.NextOccurrence (Zone.fixed 0) (11 * hour + 58 * minute : Int) (12 * hour : Int) :=
  (nextAfterHeld_fixed noon 0 (11 * hour + 58 * minute : Int)).1 (12 * hour : Int) (by decide +kernel)

/-- On the morning of 9999-12-31 noon is still to come, and the search raises. -/
theorem last_noon_overflows :
    CronSchedule.parse "0 12 * * *" = .ok noon ∧
    Representable (2932896 * day : Int) ∧
    noon.OccursInWindow (Zone.fixed 0) (2932896 * day : Int) (2932896 * day + 12 * hour : Int) ∧
    noon.nextAfterHeld (2932896 * day : Int) (Zone.fixed 0) = .error .overflow := by
  refine ⟨parse_noon, by decide, ⟨by decide, ⟨by decide, by decide +kernel⟩, by decide⟩, ?_⟩
  decide +kernel

end FixedZone

end CronSchedule

end Taroai.Triggers
