import Taroai.Triggers.Emissions

/-! No occurrence of the window is lost while evaluations come before its end. Until an
occurrence is emitted the stored `next_run_at` lies at or before it (`Owed`), and every
evaluation from then on moves the stored instant forward. The first evaluation after
`ends_at` stores nothing, whatever was still pending. -/

namespace Taroai.Triggers

namespace Watched

def windowStart (trigger : TriggerDefinition) (schedule : TriggerScheduleConfig) (now : Time) :
    Time :=
  (trigger.nextRunAt.map ensureAware).getD (fallback schedule now)

def Pending (s : Watched) (index : Nat) (t : Time) : Prop :=
  match s.trigger.nextRunAt with
  | none => index = 0
  | some v => ensureAware v ≤ t

variable {zoneInfo : String → Option Zone} {trigger : TriggerDefinition}
  {schedule : TriggerScheduleConfig} {times : Nat → DateTime} {cron : CronSchedule} {offset : Int}

theorem ended_mono {t u : Int} (before : t ≤ u) (within : schedule.ended u = false) :
    schedule.ended t = false := by
  unfold TriggerScheduleConfig.ended at within ⊢
  cases endsAt : schedule.endsAt with
  | none => rfl
  | some e =>
    simp only [endsAt, Option.any_some, decide_eq_false_iff_not, not_lt] at within ⊢
    exact le_trans before within

theorem withinWindow_of_inside {t : Time} (inside : schedule.ended t = false) :
    schedule.withinWindow t = some (DateTime.utc t) := by
  rw [TriggerScheduleConfig.withinWindow, if_neg (by simp [inside])]

section Step

variable {s : Watched} {now : DateTime} {evaluation : TriggerScheduleEvaluation} {t : Int}

theorem evaluated_of_inside (configured : s.trigger.schedule = some schedule)
    (enabled : s.trigger.status = .enabled)
    (known : zoneInfo schedule.timezone = some (Zone.fixed offset))
    (parsed : CronSchedule.parse schedule.cronExpression = .ok cron)
    (inside : schedule.ended (ensureAware now) = false)
    (ran : evaluateTriggerSchedule zoneInfo s.trigger now = .ok evaluation) :
    ∃ first reached, Evaluated zoneInfo s.trigger (ensureAware now) schedule (Zone.fixed offset)
      cron first evaluation reached := by
  rcases evaluate_cases ran with ⟨idle, -⟩ | ⟨schedule', there, -, ended, -⟩ | found
  · rcases idle with absent | disabled
    · rw [configured] at absent
      cases absent
    · rw [enabled] at disabled
      cases disabled
  · obtain rfl : schedule = schedule' := Option.some.inj (configured.symm.trans there)
    rw [inside] at ended
    cases ended
  · obtain ⟨schedule', zone, cron', first, reached, evaluated⟩ := found
    obtain rfl : schedule = schedule' :=
      Option.some.inj (configured.symm.trans evaluated.configured)
    obtain rfl : Zone.fixed offset = zone := Option.some.inj (known.symm.trans evaluated.known)
    obtain rfl : cron = cron' := Except.ok.inj (parsed.symm.trans evaluated.parsed)
    exact ⟨first, reached, evaluated⟩

theorem evaluate_of_ok (ran : evaluateTriggerSchedule zoneInfo s.trigger now = .ok evaluation) :
    s.evaluate zoneInfo now =
      ⟨s.trigger.withNextRunAt evaluation.nextRunAt,
        s.emitted ++ evaluation.dueJobs.map TriggerDueJob.scheduledFor⟩ := by
  rw [evaluate, ran]

theorem first_le_of_occurs {first : Int}
    (initial : initialNextRunAt s.trigger schedule (ensureAware now) cron (Zone.fixed offset) =
      .ok first)
    (occurs : cron.Occurs (Zone.fixed offset) t)
    (start : windowStart s.trigger schedule (ensureAware now) ≤ t) : first ≤ t := by
  rcases initialNextRunAt_cases initial with ⟨v, stored, rfl⟩ | ⟨absent, ran⟩
  · rw [Option.mem_def] at stored
    simpa [windowStart, stored] using start
  · refine (CronSchedule.nextAtOrAfter_fixed ran).2.2 t occurs ?_
    simpa [windowStart, absent] using start

/-- One evaluation within the window either emits the occurrence or keeps it owed, and then it
stores a later instant if the occurrence was due. -/
theorem evaluate_owed
    (evaluated : ∃ first reached, Evaluated zoneInfo s.trigger (ensureAware now) schedule
      (Zone.fixed offset) cron first evaluation reached)
    (ran : evaluateTriggerSchedule zoneInfo s.trigger now = .ok evaluation)
    (occurs : cron.Occurs (Zone.fixed offset) t) (within : schedule.ended t = false)
    (start : windowStart s.trigger schedule (ensureAware now) ≤ t) :
    t ∈ (s.evaluate zoneInfo now).emitted ∨
      ∃ v ∈ (s.evaluate zoneInfo now).trigger.nextRunAt, ensureAware v ≤ t ∧
        (t ≤ ensureAware now → ∀ u ∈ s.trigger.nextRunAt, ensureAware u < ensureAware v) := by
  obtain ⟨first, reached, evaluated⟩ := evaluated
  have caught := evaluated.caught
  rw [evaluate_of_ok ran]
  have firstLe := first_le_of_occurs evaluated.initial occurs start
  rcases mem_or_reached_of_occurs caught.successive occurs firstLe with here | notPassed
  · exact .inl (List.mem_append_right _ here)
  · have inside := ended_mono notPassed within
    refine .inr ⟨DateTime.utc reached, ?_, ?_, fun due u stored => ?_⟩
    · exact caught.stored.trans (withinWindow_of_inside inside)
    · rwa [ensureAware_utc]
    · -- the loop stopped because it had added as many jobs as it may
      have full : ¬ evaluation.dueJobs.length < schedule.maxCatchUpRuns := by
        intro fewer
        rcases caught.whole fewer with early | ended
        · exact absurd (le_trans notPassed due) (not_le_of_gt early)
        · rw [inside] at ended
          cases ended
      have first_eq : ensureAware u = first := by
        rcases initialNextRunAt_cases evaluated.initial with ⟨v, there, same⟩ | ⟨absent, -⟩
        · rw [Option.mem_unique stored there, same]
        · rw [Option.mem_def, absent] at stored
          cases stored
      obtain ⟨-, -, between⟩ := increasing_of_successive caught.successive
      have some_due : ∃ job, job ∈ evaluation.dueJobs := by
        refine List.exists_mem_of_length_pos ?_
        have positive := schedule.maxCatchUpRuns_pos
        omega
      obtain ⟨job, member⟩ := some_due
      obtain ⟨after, before⟩ := between _ (List.mem_map_of_mem member)
      rw [ensureAware_utc, first_eq]
      exact lt_of_le_of_lt after before

end Step

theorem after_status (n : Nat) :
    (after zoneInfo trigger times n).trigger.status = trigger.status := by
  obtain ⟨_, same⟩ := after_trigger zoneInfo trigger times n
  rw [same]
  rfl

section Run

variable (configured : trigger.schedule = some schedule) (enabled : trigger.status = .enabled)
  (known : zoneInfo schedule.timezone = some (Zone.fixed offset))
  (parsed : CronSchedule.parse schedule.cronExpression = .ok cron)
  (evaluates : ∀ i, ∃ evaluation, evaluateTriggerSchedule zoneInfo
    (after zoneInfo trigger times i).trigger (times i) = .ok evaluation)
  {t : Int} (occurs : cron.Occurs (Zone.fixed offset) t) (within : schedule.ended t = false)
  (missing : ∀ i, t ∉ (after zoneInfo trigger times i).emitted)
  (kept : ∀ i, (after zoneInfo trigger times i).Pending i t →
    schedule.ended (ensureAware (times i)) = false)

include configured enabled known parsed evaluates occurs within missing kept

theorem owed_next {i : Nat} (pending : (after zoneInfo trigger times i).Pending i t)
    (start : windowStart (after zoneInfo trigger times i).trigger schedule
      (ensureAware (times i)) ≤ t) :
    ∃ v ∈ (after zoneInfo trigger times (i + 1)).trigger.nextRunAt, ensureAware v ≤ t ∧
      (t ≤ ensureAware (times i) → ∀ u ∈ (after zoneInfo trigger times i).trigger.nextRunAt,
        ensureAware u < ensureAware v) := by
  obtain ⟨evaluation, ran⟩ := evaluates i
  have evaluated := evaluated_of_inside ((after_schedule i).trans configured)
    ((after_status i).trans enabled) known parsed (kept i pending) ran
  exact (evaluate_owed evaluated ran occurs within start).resolve_left (missing (i + 1))

theorem owed_step {i : Nat} {u : DateTime}
    (stored : (after zoneInfo trigger times i).trigger.nextRunAt = some u)
    (before : ensureAware u ≤ t) :
    ∃ v, (after zoneInfo trigger times (i + 1)).trigger.nextRunAt = some v ∧ ensureAware v ≤ t ∧
      (t ≤ ensureAware (times i) → ensureAware u < ensureAware v) := by
  have pending : (after zoneInfo trigger times i).Pending i t := by
    simpa [Pending, stored] using before
  have start : windowStart (after zoneInfo trigger times i).trigger schedule
      (ensureAware (times i)) ≤ t := by
    simpa [windowStart, stored] using before
  obtain ⟨v, there, notPassed, later⟩ := owed_next configured enabled known parsed evaluates occurs
    within missing kept pending start
  exact ⟨v, there, notPassed, fun due => later due u stored⟩

theorem owed_always (start : windowStart trigger schedule (ensureAware (times 0)) ≤ t) (i : Nat) :
    ∃ v, (after zoneInfo trigger times (i + 1)).trigger.nextRunAt = some v ∧
      ensureAware v ≤ t := by
  induction i with
  | zero =>
    have pending : (after zoneInfo trigger times 0).Pending 0 t := by
      cases stored : trigger.nextRunAt with
      | none => simp [Pending, after, stored]
      | some v => simpa [Pending, after, stored, windowStart] using start
    obtain ⟨v, there, notPassed, -⟩ := owed_next configured enabled known parsed evaluates occurs
      within missing kept pending start
    exact ⟨v, there, notPassed⟩
  | succ i ih =>
    obtain ⟨u, stored, before⟩ := ih
    obtain ⟨v, there, notPassed, -⟩ := owed_step configured enabled known parsed evaluates occurs
      within missing kept stored before
    exact ⟨v, there, notPassed⟩

theorem stored_advances {N : Nat} {u : DateTime}
    (stored : (after zoneInfo trigger times N).trigger.nextRunAt = some u)
    (before : ensureAware u ≤ t) (due : ∀ i, N ≤ i → t ≤ ensureAware (times i)) (k : Nat) :
    ∃ v, (after zoneInfo trigger times (N + k)).trigger.nextRunAt = some v ∧
      ensureAware v ≤ t ∧ ensureAware u + (k : Int) ≤ ensureAware v := by
  induction k with
  | zero => exact ⟨u, stored, before, by simp⟩
  | succ k ih =>
    obtain ⟨v, there, notPassed, ahead⟩ := ih
    obtain ⟨w, next, notPassed', later⟩ := owed_step configured enabled known parsed evaluates
      occurs within missing kept there notPassed
    refine ⟨w, next, notPassed', ?_⟩
    have moved : ensureAware v < ensureAware w := later (due _ (Nat.le_add_right N k))
    calc ensureAware u + ((k + 1 : Nat) : Int) = ensureAware u + (k : Int) + 1 := by
          rw [Int.natCast_add, ← add_assoc]
          rfl
      _ ≤ ensureAware v + 1 := add_le_add_left ahead 1
      _ ≤ ensureAware w := moved

end Run

/-- Every occurrence of the window is emitted, unless an evaluation after the end of the window
finds it still pending. -/
theorem emitted_or_discarded (configured : trigger.schedule = some schedule)
    (enabled : trigger.status = .enabled)
    (known : zoneInfo schedule.timezone = some (Zone.fixed offset))
    (parsed : CronSchedule.parse schedule.cronExpression = .ok cron)
    (advancing : Nondecreasing times)
    (unbounded : ∀ bound : Int, ∃ i, bound ≤ ensureAware (times i))
    (evaluates : ∀ i, ∃ evaluation, evaluateTriggerSchedule zoneInfo
      (after zoneInfo trigger times i).trigger (times i) = .ok evaluation)
    {t : Int} (occurs : cron.Occurs (Zone.fixed offset) t) (within : schedule.ended t = false)
    (start : windowStart trigger schedule (ensureAware (times 0)) ≤ t) :
    (∃ i, t ∈ (after zoneInfo trigger times i).emitted) ∨
      ∃ i, schedule.ended (ensureAware (times i)) = true ∧
        (after zoneInfo trigger times i).Pending i t := by
  by_contra neither
  have missing : ∀ i, t ∉ (after zoneInfo trigger times i).emitted :=
    fun i member => neither (.inl ⟨i, member⟩)
  have kept : ∀ i, (after zoneInfo trigger times i).Pending i t →
      schedule.ended (ensureAware (times i)) = false := by
    intro i pending
    cases ended : schedule.ended (ensureAware (times i)) with
    | false => rfl
    | true => exact absurd (.inr ⟨i, ended, pending⟩) neither
  obtain ⟨N, reached⟩ := unbounded t
  have due : ∀ i, N + 1 ≤ i → t ≤ ensureAware (times i) := fun i later =>
    reached.trans (advancing N i (Nat.le_of_succ_le later))
  obtain ⟨u, stored, before⟩ := owed_always configured enabled known parsed evaluates occurs within
    missing kept start N
  obtain ⟨v, -, notPassed, ahead⟩ := stored_advances configured enabled known parsed evaluates
    occurs within missing kept stored before due ((t - ensureAware u).toNat + 1)
  have gap : t - ensureAware u < (((t - ensureAware u).toNat + 1 : Nat) : Int) :=
    Int.lt_of_le_of_lt (Int.self_le_toNat _) (Int.ofNat_lt.mpr (Nat.lt_succ_self _))
  exact absurd (le_trans ahead notPassed) (not_le_of_gt (Int.lt_add_of_sub_left_lt gap))

section Minutes

theorem evaluate_of_ended {now : DateTime} (configured : trigger.schedule = some schedule)
    (enabled : trigger.status = .enabled) (ended : schedule.ended (ensureAware now) = true) :
    evaluateTriggerSchedule zoneInfo trigger now = .ok {} := by
  have type : trigger.type = .schedule := by simpa [configured] using trigger.scheduled.symm
  simp [evaluateTriggerSchedule, configured, enabled, type, ended]

theorem emitted_of_ended (configured : trigger.schedule = some schedule)
    (enabled : trigger.status = .enabled)
    (ended : ∀ i, schedule.ended (ensureAware (times i)) = true) (n : Nat) :
    (after zoneInfo trigger times n).emitted = [] := by
  induction n with
  | zero => rfl
  | succ n ih =>
    have ran : evaluateTriggerSchedule zoneInfo (after zoneInfo trigger times n).trigger (times n) =
        .ok {} :=
      evaluate_of_ended ((after_schedule n).trans configured) ((after_status n).trans enabled)
        (ended n)
    rw [after, evaluate_of_ok ran, ih]
    rfl

def minuteAndHalf : TriggerScheduleConfig :=
  everyMinute (some (DateTime.utc 0)) (some (DateTime.utc (seconds 90))) (by decide)

theorem minuteAndHalf_ended {t : Int} (late : 90000000 < t) : minuteAndHalf.ended t = true := by
  have same : ensureAware (DateTime.utc (seconds 90)) = 90000000 := by decide
  change decide (ensureAware (DateTime.utc (seconds 90)) < t) = true
  rw [same]
  exact decide_eq_true late

def fromMinute (first : Int) (n : Nat) : DateTime := DateTime.utc (minute * first + minute * n)

theorem fromMinute_nondecreasing (first : Int) : Nondecreasing (fromMinute first) :=
  nondecreasing_of_steps (by decide)

theorem fromMinute_unbounded (first : Nat) (bound : Int) :
    ∃ i, bound ≤ ensureAware (fromMinute first i) := by
  refine ⟨bound.toNat, ?_⟩
  rw [fromMinute, ensureAware_utc]
  change bound ≤ 60000000 * (first : Int) + 60000000 * (bound.toNat : Int)
  omega

/-- What `* * * * *` parses to. -/
def allMinutes : CronSchedule where
  minutes := (List.range 60).map fun i => 0 + (i : Int)
  hours := (List.range 24).map fun i => 0 + (i : Int)
  daysOfMonth := (List.range 31).map fun i => 1 + (i : Int)
  months := (List.range 12).map fun i => 1 + (i : Int)
  daysOfWeek := ((List.range 8).map fun i => 0 + (i : Int)).map fun value =>
    if value = 7 then 0 else value
  dayOfMonthRestricted := false
  dayOfWeekRestricted := false

theorem parse_allMinutes : CronSchedule.parse "* * * * *" = .ok allMinutes := by
  have fields : splitFields "* * * * *".toList = [['*'], ['*'], ['*'], ['*'], ['*']] := by decide
  rw [CronSchedule.parse, fields]
  rfl

theorem minuteAndHalf_evaluates (i : Nat) :
    ∃ evaluation, evaluateTriggerSchedule utcOnly
      (after utcOnly (scheduledBy minuteAndHalf none) (fromMinute 0) i).trigger (fromMinute 0 i) =
        .ok evaluation := by
  match i with
  | 0 => exact ⟨⟨[⟨"tenant", "workspace", "trigger", "schedule", 0, "user"⟩],
      some (DateTime.utc minute)⟩, by decide +kernel⟩
  | 1 => exact ⟨⟨[⟨"tenant", "workspace", "trigger", "schedule", minute, "user"⟩], none⟩,
      by decide +kernel⟩
  | i + 2 =>
    refine ⟨_, evaluate_of_ended (after_schedule _) (after_status _) (minuteAndHalf_ended ?_)⟩
    rw [fromMinute, ensureAware_utc]
    change (90000000 : Int) < 0 + 60000000 * ((i + 2 : Nat) : Int)
    omega

theorem minuteAndHalf_emitted_or_discarded :
    (∃ i, minute ∈ (after utcOnly (scheduledBy minuteAndHalf none) (fromMinute 0) i).emitted) ∨
      ∃ i, minuteAndHalf.ended (ensureAware (fromMinute 0 i)) = true ∧
        (after utcOnly (scheduledBy minuteAndHalf none) (fromMinute 0) i).Pending i minute :=
  emitted_or_discarded (t := minute) rfl rfl rfl parse_allMinutes (fromMinute_nondecreasing 0)
    (fromMinute_unbounded 0) minuteAndHalf_evaluates ⟨by decide +kernel, by decide +kernel⟩
    (by decide) (by decide)

structure Missed (zoneInfo : String → Option Zone) (trigger : TriggerDefinition)
    (times : Nat → DateTime) (schedule : TriggerScheduleConfig) (zone : Zone)
    (cron : CronSchedule) (t : Time) : Prop where
  configured : trigger.schedule = some schedule
  enabled : trigger.status = .enabled
  known : zoneInfo schedule.timezone = some zone
  parsed : CronSchedule.parse schedule.cronExpression = .ok cron
  advancing : Nondecreasing times
  unbounded : ∀ bound : Int, ∃ i, bound ≤ ensureAware (times i)
  occurs : cron.Occurs zone t
  start : windowStart trigger schedule (ensureAware (times 0)) ≤ t
  within : schedule.ended t = false
  missing : ∀ i, t ∉ (after zoneInfo trigger times i).emitted

def setBack : Zone where
  utcOffset t := if t < 0 then hour else 0
  wallOffset reading := if reading < hour then hour else 0

def localTime (timezone : String) : Option Zone := if timezone = "UTC" then some setBack else none

def lastMinute : TriggerDefinition :=
  scheduledBy (everyMinute none none unbounded) (some (DateTime.utc (-minute)))

def OutsideHour (t : Time) : Prop := t = -minute ∨ hour ≤ t

theorem nextAfter_setBack {t u : Int} (outside : OutsideHour t)
    (ran : allMinutes.nextAfter t setBack = .ok u) : OutsideHour u := by
  rcases outside with rfl | after
  · have next : allMinutes.nextAfter (-minute) setBack = .ok hour := by decide +kernel
    obtain rfl : hour = u := Except.ok.inj (next.symm.trans ran)
    exact .inr (le_refl _)
  · have wall : setBack.toLocal t = t := by
      have notBefore : ¬ t < 0 := not_lt_of_ge (le_trans (by decide) after)
      change t + (if t < 0 then hour else 0) = t
      rw [if_neg notBefore, add_zero]
    rw [CronSchedule.nextAfter, wall] at ran
    split at ran
    · next found ended =>
      obtain ⟨k, reached, -, -⟩ := CronSchedule.search_eq_some ended
      have later : hour ≤ found := by
        refine le_trans after (le_of_lt (lt_of_lt_of_le (CronSchedule.lt_floorMinute t) ?_))
        rw [reached]
        exact CronSchedule.first_le_candidate _ k
      have instant : setBack.toUtc found = found := by
        change found - (if found < hour then hour else 0) = found
        rw [if_neg (not_lt_of_ge later), sub_zero]
      rw [instant] at ran
      cases ran
      exact .inr later
    · cases ran

theorem successive_setBack {first reached : Int} {ts : List Time}
    (successive : Successive allMinutes setBack first ts reached) (outside : OutsideHour first) :
    OutsideHour reached ∧ ∀ t ∈ ts, OutsideHour t := by
  induction successive with
  | none => exact ⟨outside, fun _ impossible => by cases impossible⟩
  | more step rest ih =>
    obtain ⟨reaches, all⟩ := ih (nextAfter_setBack outside step)
    exact ⟨reaches, List.forall_mem_cons.mpr ⟨outside, all⟩⟩

theorem lastMinute_outsideHour (n : Nat) :
    (∃ v ∈ (after localTime lastMinute times n).trigger.nextRunAt, OutsideHour (ensureAware v)) ∧
      ∀ t ∈ (after localTime lastMinute times n).emitted, OutsideHour t := by
  induction n with
  | zero =>
    exact ⟨⟨_, rfl, .inl (by decide)⟩, fun _ impossible => by cases impossible⟩
  | succ n ih =>
    obtain ⟨⟨v, stored, outside⟩, emitted⟩ := ih
    have configured : (after localTime lastMinute times n).trigger.schedule = _ := after_schedule n
    rw [after]
    cases ran : evaluateTriggerSchedule localTime (after localTime lastMinute times n).trigger
        (times n) with
    | error message =>
      rw [evaluate, ran]
      exact ⟨⟨v, stored, outside⟩, emitted⟩
    | ok evaluation =>
      rw [evaluate_of_ok ran]
      rcases evaluate_cases ran with ⟨-, rfl⟩ | ⟨schedule, there, -, ended, -⟩ | found
      · exact ⟨⟨v, stored, outside⟩, by simpa using emitted⟩
      · obtain rfl := Option.some.inj (configured.symm.trans there)
        cases ended
      · obtain ⟨schedule, zone, cron, first, reached, evaluated⟩ := found
        obtain rfl := Option.some.inj (configured.symm.trans evaluated.configured)
        obtain rfl := Option.some.inj (evaluated.known.symm.trans rfl)
        obtain rfl := Except.ok.inj (parse_allMinutes.symm.trans evaluated.parsed)
        have start : OutsideHour first := by
          rcases initialNextRunAt_cases evaluated.initial with ⟨u, there, rfl⟩ | ⟨absent, -⟩
          · rwa [Option.mem_unique there stored]
          · rw [Option.mem_def, absent] at stored
            cases stored
        obtain ⟨reaches, all⟩ := successive_setBack evaluated.caught.successive start
        refine ⟨⟨DateTime.utc reached, evaluated.caught.stored, ?_⟩, fun t member => ?_⟩
        · rwa [ensureAware_utc]
        · exact (List.mem_append.mp member).elim (emitted t) (all t)

/-- The first evaluation comes after the end of the window, or the clock is set back before the
occurrence. -/
theorem occurrences_missed :
    Missed utcOnly (scheduledBy minuteAndHalf none) (fromMinute 2) minuteAndHalf (Zone.fixed 0)
        allMinutes minute ∧
      Missed localTime lastMinute (fromMinute 0) (everyMinute none none (by decide)) setBack
        allMinutes minute := by
  constructor
  · exact
      { configured := rfl
        enabled := rfl
        known := rfl
        parsed := parse_allMinutes
        advancing := fromMinute_nondecreasing 2
        unbounded := fromMinute_unbounded 2
        occurs := ⟨by decide +kernel, by decide +kernel⟩
        start := by decide
        within := by decide
        missing := by
          intro i member
          have ended : ∀ j, minuteAndHalf.ended (ensureAware (fromMinute 2 j)) = true := by
            intro j
            refine minuteAndHalf_ended ?_
            rw [fromMinute, ensureAware_utc]
            change (90000000 : Int) < 60000000 * 2 + 60000000 * (j : Int)
            omega
          rw [emitted_of_ended rfl rfl ended i] at member
          cases member }
  · exact
      { configured := rfl
        enabled := rfl
        known := rfl
        parsed := parse_allMinutes
        advancing := fromMinute_nondecreasing 0
        unbounded := fromMinute_unbounded 0
        occurs := ⟨by decide +kernel, by decide +kernel⟩
        start := by decide
        within := rfl
        missing := by
          intro i member
          have outside := (lastMinute_outsideHour i).2 minute member
          exact absurd outside (by unfold OutsideHour; decide) }

end Minutes

end Watched

end Taroai.Triggers
