import Taroai.Triggers.NextOccurrence

/-! `next_after` in a zone whose clock is set forward and back. A zone gives at each instant its
offset and whether its reading is shown for the second time (`fold`); the offset of a reading
with its `fold` is what `zoneinfo` converts it back with. Arithmetic on a datetime forgets the
`fold`, so the candidates of a search are first showings. -/

namespace Taroai.Triggers

/-- A zone as `zoneinfo` defines it: the inverse takes a reading and its `fold` to its instant,
a `fold` belongs to the second of two showings, and a reading that was skipped stands for an
instant behind those of the readings before it. -/
structure ZoneInfo where
  utcOffset : Int → Int
  fold : Int → Bool
  offsetOf : Bool → Int → Int
  inverse : ∀ t, offsetOf (fold t) (t + utcOffset t) = utcOffset t
  second : ∀ t, fold t = true → ∃ u, u < t ∧ fold u = false ∧ u + utcOffset u = t + utcOffset t
  skipped : ∀ reading, (∀ t, t + utcOffset t ≠ reading) →
    ∀ t, t + utcOffset t < reading → t < reading - offsetOf false reading

namespace ZoneInfo

variable (zone : ZoneInfo)

def toZone : Zone := ⟨zone.utcOffset, zone.offsetOf false⟩

def Shows (t reading : Int) : Prop := zone.toZone.toLocal t = reading

def movedBy (reading : Int) : Int :=
  zone.utcOffset (zone.toZone.toUtc reading) - zone.offsetOf false reading

theorem toLocal_toUtc (reading : Int) :
    zone.toZone.toLocal (zone.toZone.toUtc reading) = reading + zone.movedBy reading := by
  change reading - zone.offsetOf false reading + zone.utcOffset (zone.toZone.toUtc reading) =
    reading + (zone.utcOffset (zone.toZone.toUtc reading) - zone.offsetOf false reading)
  omega

variable {zone}

theorem toUtc_of_fold {t reading : Int} (shows : zone.Shows t reading) (first : zone.fold t = false) :
    zone.toZone.toUtc reading = t := by
  have offset := zone.inverse t
  rw [first] at offset
  have clock : t + zone.utcOffset t = reading := shows
  rw [clock] at offset
  change reading - zone.offsetOf false reading = t
  omega

theorem toUtc_le {t reading : Int} (shows : zone.Shows t reading) :
    zone.toZone.toUtc reading ≤ t ∧ zone.Shows (zone.toZone.toUtc reading) reading := by
  cases again : zone.fold t with
  | false =>
    rw [toUtc_of_fold shows again]
    exact ⟨le_rfl, shows⟩
  | true =>
    obtain ⟨u, before, first, same⟩ := zone.second t again
    have shows_before : zone.Shows u reading := same.trans shows
    rw [toUtc_of_fold shows_before first]
    exact ⟨before.le, shows_before⟩

/-- The instant that a later reading stands for lies ahead as long as the clock has not shown
the reading. -/
theorem lt_toUtc_iff {value reading : Int} (later : zone.toZone.toLocal value < reading) :
    value < zone.toZone.toUtc reading ↔ ∀ t, zone.Shows t reading → value < t := by
  constructor
  · intro ahead t shows
    exact lt_of_lt_of_le ahead (toUtc_le shows).1
  · intro ahead
    by_cases shown : ∃ t, zone.Shows t reading
    · obtain ⟨t, shows⟩ := shown
      exact ahead _ (toUtc_le shows).2
    · exact zone.skipped reading (fun t shows => shown ⟨t, shows⟩) value later

theorem shown_iff {reading : Int} :
    (∃ t, zone.Shows t reading) ↔ zone.movedBy reading = 0 := by
  constructor
  · rintro ⟨t, shows⟩
    have clock : zone.toZone.toLocal (zone.toZone.toUtc reading) = reading := (toUtc_le shows).2
    rw [toLocal_toUtc] at clock
    exact Int.add_left_cancel (clock.trans (Int.add_zero reading).symm)
  · intro unmoved
    refine ⟨zone.toZone.toUtc reading, ?_⟩
    unfold Shows
    rw [toLocal_toUtc, unmoved, add_zero]

section Turn

def turn (instant before after : Int) : ZoneInfo where
  utcOffset t := if t < instant then before else after
  fold t := decide (instant ≤ t ∧ t + after < instant + before)
  offsetOf fold reading :=
    if reading < instant + (if fold then min before after else max before after) then before
    else after
  inverse t := by
    by_cases early : t < instant
    · have not_second : ¬(instant ≤ t ∧ t + after < instant + before) := fun both => by omega
      simp only [early, if_true, not_second, decide_false, Bool.false_eq_true, if_false]
      rw [if_pos (by omega)]
    · by_cases second : instant ≤ t ∧ t + after < instant + before
      · simp only [early, if_false, second, and_self, decide_true, if_true]
        rw [if_neg (by omega)]
      · simp only [early, if_false, second, decide_false, Bool.false_eq_true]
        rw [if_neg (by omega)]
  second t again := by
    have both := of_decide_eq_true again
    refine ⟨t + after - before, by omega, decide_eq_false (by omega), ?_⟩
    rw [if_pos (by omega), if_neg (by omega)]
    omega
  skipped reading never t earlier := by
    have first := never (reading - before)
    have last := never (reading - after)
    simp only [Bool.false_eq_true, if_false]
    by_cases early : t < instant
    · rw [if_pos early] at earlier
      split at first
      · omega
      · rw [if_pos (by split at last <;> omega)]
        omega
    · rw [if_neg early] at earlier
      split at last <;> omega

end Turn

end ZoneInfo

namespace CronSchedule

/-- The first whole-minute reading behind the given one that the expression matches. -/
structure FirstReading (cron : CronSchedule) (reading next : Int) : Prop where
  later : reading < next
  whole : next % minute = 0
  shown : cron.matchesReading next = true
  least : ∀ other : Int, reading < other → other % minute = 0 →
    cron.matchesReading other = true → next ≤ other

variable {cron : CronSchedule} {zone : ZoneInfo}

theorem FirstReading.unique {reading next other : Int} (first : cron.FirstReading reading next)
    (second : cron.FirstReading reading other) : next = other :=
  le_antisymm (first.least other second.later second.whole second.shown)
    (second.least next first.later first.whole first.shown)

theorem firstReading_of_search {reading found : Int}
    (ran : cron.search candidates (floorMinute reading + minute) = some found) :
    cron.FirstReading reading found := by
  obtain ⟨k, reached, shown, before⟩ := search_eq_some ran
  refine ⟨?_, ?_, shown, fun other later whole shown_other => ?_⟩
  · exact reached ▸ (lt_floorMinute reading).trans_le (first_le_candidate _ k)
  · exact reached ▸ whole_candidate reading k
  · obtain ⟨j, same⟩ := candidate_of_whole whole later
    by_contra earlier
    have passed := before j (by
      refine (candidate_lt (floorMinute reading + minute)).mp ?_
      rw [← reached, ← same]
      exact Int.not_le.mp earlier)
    rw [← same, shown_other] at passed
    cases passed

/-- The reading is shown, or the one that the clock was moved on to matches as well. -/
def StaysMatched (cron : CronSchedule) (zone : ZoneInfo) (reading : Int) : Prop :=
  (∃ t, zone.Shows t reading) ∨ cron.matchesReading (reading + zone.movedBy reading) = true

theorem staysMatched_iff {reading : Int} (matched : cron.matchesReading reading = true) :
    cron.matchesReading (zone.toZone.toLocal (zone.toZone.toUtc reading)) = true ↔
      cron.StaysMatched zone reading := by
  rw [ZoneInfo.toLocal_toUtc]
  constructor
  · exact .inr
  · rintro (shown | moved)
    · rwa [ZoneInfo.shown_iff.mp shown, add_zero]
    · exact moved

/-- The next matching reading is still to be shown, or was moved on to another match. -/
structure GoesForward (cron : CronSchedule) (zone : ZoneInfo) (value next : Int) : Prop where
  first : cron.FirstReading (zone.toZone.toLocal value) next
  ahead : ∀ t, zone.Shows t next → value < t
  stays : cron.StaysMatched zone next

structure Progress (cron : CronSchedule) (zone : ZoneInfo) (value t : Int) : Prop where
  later : value < t
  shown : cron.matchesReading (zone.toZone.toLocal t) = true

theorem nextAfterHeld_progress {value t : Int} (ran : cron.nextAfterHeld value zone.toZone = .ok t) :
    cron.Progress zone value t ↔ ∃ next, cron.GoesForward zone value next := by
  obtain ⟨found, searched, rfl⟩ := nextAfterHeld_ok.mp ran
  have first := firstReading_of_search searched.searched
  constructor
  · rintro ⟨later, shown⟩
    exact ⟨found, first, (ZoneInfo.lt_toUtc_iff first.later).mp later,
      (staysMatched_iff first.shown).mp shown⟩
  · rintro ⟨next, first_next, ahead, stays⟩
    obtain rfl := first.unique first_next
    exact ⟨(ZoneInfo.lt_toUtc_iff first.later).mpr ahead, (staysMatched_iff first.shown).mpr stays⟩

/-- The search from a minute before finds an instant that is not before the given one. -/
structure Reaches (cron : CronSchedule) (zone : ZoneInfo) (value next : Int) : Prop where
  first : cron.FirstReading (zone.toZone.toLocal (value - minute)) next
  reached : value ≤ zone.toZone.toUtc next

/-- What `next_at_or_after` needs: the search that it answers with goes forward. -/
def ArrivesAt (cron : CronSchedule) (zone : ZoneInfo) (value : Int) : Prop :=
  (∃ next, cron.Reaches zone value next ∧ cron.StaysMatched zone next) ∨
    (¬∃ next, cron.Reaches zone value next) ∧ ∃ next, cron.GoesForward zone value next

theorem toUtc_ne {value next : Int} (first : cron.FirstReading (zone.toZone.toLocal value) next)
    (notBefore : value ≤ zone.toZone.toUtc next) : value < zone.toZone.toUtc next := by
  refine lt_of_le_of_ne notBefore fun same => ?_
  by_cases shown : ∃ t, zone.Shows t next
  · obtain ⟨t, shows⟩ := shown
    have clock := (ZoneInfo.toUtc_le shows).2
    rw [← same] at clock
    exact absurd clock (ne_of_lt first.later)
  · have ahead := (ZoneInfo.lt_toUtc_iff first.later).mpr fun t shows => absurd ⟨t, shows⟩ shown
    exact absurd same (ne_of_lt ahead)

theorem nextAtOrAfterHeld_arrives {value t : Int}
    (ran : cron.nextAtOrAfterHeld value zone.toZone = .ok t) :
    (value ≤ t ∧ cron.matchesReading (zone.toZone.toLocal t) = true) ↔ cron.ArrivesAt zone value := by
  unfold nextAtOrAfterHeld at ran
  obtain ⟨_, earlier, ran⟩ := Json.except_bind_ok.mp ran
  obtain ⟨-, rfl⟩ := held_ok.mp earlier
  obtain ⟨candidate, first_search, ran⟩ := Json.except_bind_ok.mp ran
  obtain ⟨found, searched, rfl⟩ := nextAfterHeld_ok.mp first_search
  have first := firstReading_of_search searched.searched
  unfold ArrivesAt
  split at ran
  · next before =>
    have unreached : ¬∃ next, cron.Reaches zone value next := by
      rintro ⟨next, first_next, reached⟩
      obtain rfl := first.unique first_next
      exact absurd before (not_lt.mpr reached)
    rw [← nextAfterHeld_progress ran]
    constructor
    · rintro ⟨notBefore, shown⟩
      obtain ⟨later_found, later_searched, rfl⟩ := nextAfterHeld_ok.mp ran
      have later_first := firstReading_of_search later_searched.searched
      exact .inr ⟨unreached, toUtc_ne later_first notBefore, shown⟩
    · rintro (⟨next, reached, -⟩ | ⟨-, later, shown⟩)
      · exact absurd ⟨next, reached⟩ unreached
      · exact ⟨later.le, shown⟩
  · next notBefore =>
    cases ran
    have reaches : cron.Reaches zone value found := ⟨first, not_lt.mp notBefore⟩
    constructor
    · rintro ⟨-, shown⟩
      exact .inl ⟨found, reaches, (staysMatched_iff first.shown).mp shown⟩
    · rintro (⟨next, ⟨first_next, -⟩, stays⟩ | ⟨unreached, -⟩)
      · obtain rfl := first.unique first_next
        exact ⟨reaches.reached, (staysMatched_iff first.shown).mpr stays⟩
      · exact absurd ⟨found, reaches⟩ unreached

/-- The searches go forward in the zone exactly where the reading they stop at is not one that
the clock has shown before and, if it is skipped, is moved on to another match. -/
theorem searches_progress (cron : CronSchedule) (zone : ZoneInfo) (value : Int) :
    (∀ t : Int, cron.nextAfterHeld value zone.toZone = .ok t →
      (cron.Progress zone value t ↔ ∃ next, cron.GoesForward zone value next)) ∧
    ∀ t : Int, cron.nextAtOrAfterHeld value zone.toZone = .ok t →
      ((value ≤ t ∧ cron.matchesReading (zone.toZone.toLocal t) = true) ↔
        cron.ArrivesAt zone value) :=
  ⟨fun _ => nextAfterHeld_progress, fun _ => nextAtOrAfterHeld_arrives⟩

def setBack : ZoneInfo := .turn (11 * hour + 30 * minute) hour 0

def setForward : ZoneInfo := .turn (11 * hour + 30 * minute) 0 hour

theorem searches_progress_noon :
    noon.Progress setBack (10 * hour + 58 * minute : Int) (11 * hour : Int) ↔
      ∃ next, noon.GoesForward setBack (10 * hour + 58 * minute : Int) next :=
  (searches_progress noon setBack (10 * hour + 58 * minute : Int)).1 (11 * hour : Int)
    (by decide +kernel)

/-- At the second 11:45 the search answers with the first noon, which is over, and for the noon
that was skipped it answers with one o'clock. -/
theorem noon_shown_before :
    noon.nextAfterHeld (11 * hour + 45 * minute : Int) setBack.toZone = .ok (11 * hour : Int) ∧
    noon.nextAtOrAfterHeld (11 * hour + 45 * minute : Int) setBack.toZone = .ok (11 * hour : Int) ∧
    ¬noon.Progress setBack (11 * hour + 45 * minute : Int) (11 * hour : Int) ∧
    noon.nextAfterHeld (11 * hour + 15 * minute : Int) setForward.toZone = .ok (12 * hour : Int) ∧
    noon.matchesReading (setForward.toZone.toLocal (12 * hour : Int)) = false := by
  refine ⟨by decide +kernel, by decide +kernel, fun progress => ?_, by decide +kernel,
    by decide +kernel⟩
  exact absurd progress.later (by decide)

end CronSchedule

end Taroai.Triggers
