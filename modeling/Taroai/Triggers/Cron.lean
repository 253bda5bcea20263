import Mathlib.Data.List.Basic
import Mathlib.Algebra.Order.Group.Int
import Mathlib.Tactic.Linarith
import Taroai.Clock
import Taroai.Lib.Whitespace

/-! `CronSchedule` of `triggers/scheduler.py`. A wall clock reading is counted in microseconds
like an instant, from the same epoch; a zone says which offset holds at an instant and which
one a reading stands for (the first of two when the clock was set back, `fold=0`).
Candidates advance on the wall clock, so the search is over readings. Years are not bounded. -/

namespace Taroai.Triggers

def minute : Time := seconds 60
def hour : Time := 60 * minute
def day : Time := 24 * hour

structure Date where
  year : Int
  month : Int
  day : Int
deriving DecidableEq, Repr

def isLeap (year : Int) : Bool :=
  decide (year % 4 = 0) && (decide (year % 100 ≠ 0) || decide (year % 400 = 0))

def monthLengths (year : Int) : List Int :=
  [31, if isLeap year then 29 else 28, 31, 30, 31, 30, 31, 31, 30, 31, 30, 31]

/-- The month and the day of the month of a day of the year, from zero. -/
def monthAndDay (month : Int) : List Int → Int → Int × Int
  | [], n => (month, n + 1)
  | length :: rest, n => if n < length then (month, n + 1) else monthAndDay (month + 1) rest (n - length)

def dateOfOrdinal (n : Int) : Date :=
  let n400 := n / 146097
  let n := n % 146097
  let n100 := n / 36524
  let n := n % 36524
  let n4 := n / 1461
  let n := n % 1461
  let n1 := n / 365
  let n := n % 365
  let year := n400 * 400 + n100 * 100 + n4 * 4 + n1 + 1
  if n1 = 4 ∨ n100 = 4 then ⟨year - 1, 12, 31⟩
  else
    let (month, day) := monthAndDay 1 (monthLengths year) n
    ⟨year, month, day⟩

def epochOrdinal : Int := 719162

def dateOf (reading : Time) : Date := dateOfOrdinal (epochOrdinal + reading / day)

example : dateOf 0 = ⟨1970, 1, 1⟩ := by decide
example : dateOf (20636 * day + 9 * hour) = ⟨2026, 7, 2⟩ := by decide

/-- `weekday()`: Monday is 0. -/
def weekday (reading : Time) : Int := (reading / day + 3) % 7

structure Zone where
  utcOffset : Time → Time
  wallOffset : Time → Time

def Zone.toLocal (zone : Zone) (t : Time) : Time := t + zone.utcOffset t

/-- `astimezone(timezone.utc)` of a reading. -/
def Zone.toUtc (zone : Zone) (reading : Time) : Time := reading - zone.wallOffset reading

def Zone.fixed (offset : Time) : Zone := ⟨fun _ => offset, fun _ => offset⟩

/-- `_ensure_aware`: a naive datetime is taken for UTC. -/
def ensureAware (value : DateTime) : Time := value.reading - value.utcOffset.getD 0

@[simp] theorem ensureAware_utc (t : Time) : ensureAware (DateTime.utc t) = t := by
  simp [ensureAware, DateTime.utc]

section Parsing

def digitValue (c : Char) : Nat := c.toNat - '0'.toNat

/-- The zeros of the decimal digits of the Unicode database; behind each stand the other nine. -/
def decimalZeros : List Nat :=
  [0x30, 0x660, 0x6f0, 0x7c0, 0x966, 0x9e6, 0xa66, 0xae6, 0xb66, 0xbe6, 0xc66, 0xce6, 0xd66,
    0xde6, 0xe50, 0xed0, 0xf20, 0x1040, 0x1090, 0x17e0, 0x1810, 0x1946, 0x19d0, 0x1a80, 0x1a90,
    0x1b50, 0x1bb0, 0x1c40, 0x1c50, 0xa620, 0xa8d0, 0xa900, 0xa9d0, 0xa9f0, 0xaa50, 0xabf0,
    0xff10, 0x104a0, 0x10d30, 0x11066, 0x110f0, 0x11136, 0x111d0, 0x112f0, 0x11450, 0x114d0,
    0x11650, 0x116c0, 0x11730, 0x118e0, 0x11950, 0x11c50, 0x11d50, 0x11da0, 0x16a60, 0x16ac0,
    0x16b50, 0x1d7ce, 0x1d7d8, 0x1d7e2, 0x1d7ec, 0x1d7f6, 0x1e140, 0x1e2f0, 0x1e950, 0x1fbf0]

def decimal? (c : Char) : Option Nat :=
  (decimalZeros.find? fun first => first ≤ c.toNat && c.toNat < first + 10).map (c.toNat - ·)

def readDigits (value : Nat) : List Char → Option Nat
  | [] => some value
  | '_' :: c :: rest => (decimal? c).bind fun digit => readDigits (10 * value + digit) rest
  | c :: rest => (decimal? c).bind fun digit => readDigits (10 * value + digit) rest

def readNat : List Char → Option Nat
  | [] => none
  | c :: rest => (decimal? c).bind fun digit => readDigits digit rest

def readSigned : List Char → Option Int
  | '-' :: rest => (readNat rest).map fun n => -(n : Int)
  | '+' :: rest => (readNat rest).map fun n => (n : Int)
  | cs => (readNat cs).map fun n => (n : Int)

/-- The white space that `int` passes over; of ASCII it is that of C. -/
def intSpace (c : Char) : Bool := isSpace c && !(28 ≤ c.toNat && c.toNat < 32)

/-- `sys.int_info.default_max_str_digits` -/
def maxDigits : Nat := 4300

/-- `int(text)`. -/
def toInt (cs : List Char) : Except String Int :=
  let text := stripChars intSpace cs
  match readSigned text with
  | some n =>
    if maxDigits < (text.filter fun c => (decimal? c).isSome).length then
      .error "Exceeds the limit (4300 digits) for integer string conversion"
    else .ok n
  | none => .error s!"invalid literal for int() with base 10: '{String.ofList cs}'"

def splitAtFirst (sep : Char) : List Char → Option (List Char × List Char)
  | [] => none
  | c :: rest =>
    if c = sep then some ([], rest) else (splitAtFirst sep rest).map fun (a, b) => (c :: a, b)

def splitParts (sep : Char) : List Char → List Char × List (List Char)
  | [] => ([], [])
  | c :: rest =>
    let (part, parts) := splitParts sep rest
    if c = sep then ([], part :: parts) else (c :: part, parts)

/-- `text.split(sep)`. -/
def splitOn (sep : Char) (cs : List Char) : List (List Char) :=
  let (part, parts) := splitParts sep cs
  part :: parts

/-- `text.split()`: maximal runs without blanks. -/
def splitFields (cs : List Char) : List (List Char) :=
  (splitOn ' ' (cs.map fun c => if isSpace c then ' ' else c)).filter fun part =>
    !part.isEmpty

def parseCronPart (part : List Char) (minimum maximum : Int) : Except String (List Int) := do
  let (rangePart, step) ← match splitAtFirst '/' part with
    | some (rangePart, stepPart) => do
      let step ← toInt stepPart
      if step < 1 then throw "cron step must be greater than 0"
      pure (rangePart, step)
    | none => pure (part, 1)
  let (start, stop) ←
    if rangePart = ['*'] then pure (minimum, maximum)
    else match splitAtFirst '-' rangePart with
      | some (startPart, endPart) => do
        let start ← toInt startPart
        let stop ← toInt endPart
        pure (start, stop)
      | none => do
        let start ← toInt rangePart
        pure (start, start)
  if start < minimum ∨ stop > maximum ∨ start > stop then
    throw "cron field value is outside supported range"
  pure ((List.range ((stop - start) / step + 1).toNat).map fun i => start + i * step)

def parseParts (minimum maximum : Int) : List (List Char) → Except String (List Int)
  | [] => pure []
  | part :: rest => do
    let values ← parseCronPart part minimum maximum
    let others ← parseParts minimum maximum rest
    pure (values ++ others)

def parseCronField (rawField : List Char) (minimum maximum : Int) :
    Except String (List Int × Bool) :=
  if rawField = ['*'] then
    pure ((List.range (maximum - minimum + 1).toNat).map fun i => minimum + i, false)
  else do
    let values ← parseParts minimum maximum (splitOn ',' rawField)
    pure (values, true)

end Parsing

structure CronSchedule where
  minutes : List Int
  hours : List Int
  daysOfMonth : List Int
  months : List Int
  daysOfWeek : List Int
  dayOfMonthRestricted : Bool
  dayOfWeekRestricted : Bool
deriving DecidableEq, Repr

namespace CronSchedule

def parse (expression : String) : Except String CronSchedule :=
  match splitFields expression.toList with
  | [minuteField, hourField, dayField, monthField, weekdayField] => do
    let (daysOfMonth, dayOfMonthRestricted) ← parseCronField dayField 1 31
    let (daysOfWeek, dayOfWeekRestricted) ← parseCronField weekdayField 0 7
    let (minutes, _) ← parseCronField minuteField 0 59
    let (hours, _) ← parseCronField hourField 0 23
    let (months, _) ← parseCronField monthField 1 12
    pure
      { minutes := minutes
        hours := hours
        daysOfMonth := daysOfMonth
        months := months
        daysOfWeek := daysOfWeek.map fun value => if value = 7 then 0 else value
        dayOfMonthRestricted := dayOfMonthRestricted
        dayOfWeekRestricted := dayOfWeekRestricted }
  | _ => .error "cron expression must contain 5 fields"

def matchesDay (cron : CronSchedule) (reading : Time) : Bool :=
  let cronWeekday := (weekday reading + 1) % 7
  let dayOfMonthMatches := cron.daysOfMonth.contains (dateOf reading).day
  let dayOfWeekMatches := cron.daysOfWeek.contains cronWeekday
  if cron.dayOfMonthRestricted && cron.dayOfWeekRestricted then
    dayOfMonthMatches || dayOfWeekMatches
  else dayOfMonthMatches && dayOfWeekMatches

def matchesReading (cron : CronSchedule) (reading : Time) : Bool :=
  cron.minutes.contains (reading / minute % 60) && cron.hours.contains (reading / hour % 24) &&
    cron.months.contains (dateOf reading).month && cron.matchesDay reading

/-- The loop of `next_after` with the number of candidates that are left. -/
def search (cron : CronSchedule) : Nat → Time → Option Time
  | 0, _ => none
  | left + 1, candidate =>
    if cron.matchesReading candidate then some candidate
    else search cron left (candidate + minute)

def candidates : Nat := 366 * 5 * 24 * 60 + 1

def floorMinute (reading : Time) : Time := reading - reading % minute

def nextAfter (cron : CronSchedule) (value : Time) (zone : Zone) : Except String Time :=
  match cron.search candidates (floorMinute (zone.toLocal value) + minute) with
  | some candidate => .ok (zone.toUtc candidate)
  | none => .error "no cron occurrence found within 5 years"

def nextAtOrAfter (cron : CronSchedule) (value : Time) (zone : Zone) : Except String Time := do
  let candidate ← cron.nextAfter (value - minute) zone
  if candidate < value then cron.nextAfter value zone else pure candidate

structure Occurs (cron : CronSchedule) (zone : Zone) (t : Time) : Prop where
  whole : zone.toLocal t % minute = 0
  shown : cron.matchesReading (zone.toLocal t) = true

theorem lt_floorMinute (reading : Int) : reading < floorMinute reading + minute := by
  change reading < reading - reading % 60000000 + 60000000
  omega

theorem whole_candidate (reading : Int) (k : Nat) :
    (floorMinute reading + minute + k * minute) % minute = 0 := by
  change (reading - reading % 60000000 + 60000000 + k * 60000000) % 60000000 = 0
  omega

theorem candidate_of_whole {reading later : Int} (whole : later % minute = 0)
    (after : reading < later) :
    ∃ k : Nat, later = floorMinute reading + minute + k * minute := by
  change later % 60000000 = 0 at whole
  refine ⟨((later - (reading - reading % 60000000 + 60000000)) / 60000000).toNat, ?_⟩
  change later = reading - reading % 60000000 + 60000000 + _ * (60000000 : Int)
  omega

theorem candidate_lt (first : Int) {j k : Nat} :
    first + j * minute < first + k * minute ↔ j < k := by
  change first + j * (60000000 : Int) < first + k * 60000000 ↔ j < k
  omega

theorem first_le_candidate (first : Int) (k : Nat) : first ≤ first + k * minute := by
  change first ≤ first + k * (60000000 : Int)
  omega

theorem search_eq_some {cron : CronSchedule} {left : Nat} {first found : Int}
    (ran : cron.search left first = some found) :
    ∃ k : Nat, found = first + k * minute ∧ cron.matchesReading found = true ∧
      ∀ j : Nat, j < k → cron.matchesReading (first + j * minute) = false := by
  have next : ∀ j : Nat, first + minute + j * minute = first + (j + 1 : Nat) * minute := by
    intro j
    change first + 60000000 + j * (60000000 : Int) = first + (j + 1 : Nat) * 60000000
    omega
  induction left generalizing first with
  | zero => cases ran
  | succ left ih =>
    rw [search] at ran
    split at ran
    · next here =>
      cases ran
      exact ⟨0, by simp, here, fun j impossible => absurd impossible (Nat.not_lt_zero j)⟩
    · next passed =>
      obtain ⟨k, same, here, before⟩ := ih ran fun j => by
        change first + 60000000 + 60000000 + j * (60000000 : Int) =
          first + 60000000 + (j + 1 : Nat) * 60000000
        omega
      refine ⟨k + 1, same.trans (next k), here, fun j earlier => ?_⟩
      cases j with
      | zero => simpa using passed
      | succ j => exact next j ▸ before j (Nat.lt_of_succ_lt_succ earlier)

theorem whole_lt_whole {earlier later : Int} (first : earlier % minute = 0)
    (second : later % minute = 0) (before : earlier < later) : earlier ≤ later - minute := by
  change earlier % 60000000 = 0 at first
  change later % 60000000 = 0 at second
  change earlier ≤ later - 60000000
  omega

theorem le_sub_of_shifted {earlier later offset : Int}
    (apart : earlier + offset ≤ later + offset - minute) : earlier ≤ later - minute := by
  change earlier + offset ≤ later + offset - 60000000 at apart
  change earlier ≤ later - 60000000
  omega

section FixedZone

variable {cron : CronSchedule} {offset : Int}

theorem toLocal_fixed (t : Int) : (Zone.fixed offset).toLocal t = t + offset := rfl

theorem nextAfter_fixed {value t : Int} (ran : cron.nextAfter value (Zone.fixed offset) = .ok t) :
    value < t ∧ cron.Occurs (Zone.fixed offset) t ∧
      ∀ u : Int, cron.Occurs (Zone.fixed offset) u → value < u → t ≤ u := by
  rw [nextAfter, toLocal_fixed] at ran
  split at ran
  · next found ended =>
    obtain ⟨k, reached, shown, before⟩ := search_eq_some ended
    have clock : t + offset = found := (Int.sub_eq_iff_eq_add.mp (Except.ok.inj ran)).symm
    have passes : value + offset < t + offset := by
      rw [clock, reached]
      exact (lt_floorMinute _).trans_le (first_le_candidate _ k)
    refine ⟨by omega, ⟨?_, ?_⟩, fun u occurs later => ?_⟩
    · rw [toLocal_fixed, clock, reached]
      exact whole_candidate (value + offset) k
    · rwa [toLocal_fixed, clock]
    · by_contra earlier
      -- the earlier occurrence would be one of the candidates that were passed over
      have after : value + offset < u + offset := by omega
      obtain ⟨whole, shownAt⟩ := occurs
      rw [toLocal_fixed] at whole shownAt
      obtain ⟨j, same⟩ := candidate_of_whole whole after
      have before_k : j < k := by
        refine (candidate_lt (floorMinute (value + offset) + minute)).mp ?_
        rw [← reached, ← clock, ← same]
        exact Int.add_lt_add_right (Int.not_le.mp earlier) offset
      have passed := before j before_k
      rw [← same, shownAt] at passed
      cases passed
  · cases ran

theorem nextAtOrAfter_fixed {value t : Int}
    (ran : cron.nextAtOrAfter value (Zone.fixed offset) = .ok t) :
    value ≤ t ∧ cron.Occurs (Zone.fixed offset) t ∧
      ∀ u : Int, cron.Occurs (Zone.fixed offset) u → value ≤ u → t ≤ u := by
  have shorter : value - minute < value := by
    change value - 60000000 < value
    omega
  unfold nextAtOrAfter at ran
  cases first : cron.nextAfter (value - minute) (Zone.fixed offset) with
  | error message =>
    rw [first] at ran
    cases ran
  | ok candidate =>
    rw [first] at ran
    obtain ⟨beyond, occurs, least⟩ := nextAfter_fixed first
    change (if candidate < value then cron.nextAfter value (Zone.fixed offset)
      else .ok candidate) = .ok t at ran
    split at ran
    · next early =>
      obtain ⟨later, occursLater, leastLater⟩ := nextAfter_fixed ran
      refine ⟨le_of_lt later, occursLater, fun u at_u notBefore => ?_⟩
      rcases lt_or_eq_of_le notBefore with after | same
      · exact leastLater u at_u after
      · -- an occurrence at the instant itself is the first one a minute before
        subst same
        have apart := whole_lt_whole occurs.whole at_u.whole (Int.add_lt_add_right early offset)
        exact absurd beyond (Int.not_lt.mpr (le_sub_of_shifted apart))
    · next late =>
      cases ran
      refine ⟨Int.not_lt.mp late, occurs, fun u at_u notBefore => least u at_u ?_⟩
      exact lt_of_lt_of_le shorter notBefore

end FixedZone

end CronSchedule

end Taroai.Triggers
