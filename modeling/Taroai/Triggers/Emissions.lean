import Mathlib
import Taroai.Triggers.Schedule

/-! Repeated evaluation of one schedule trigger: each evaluation stores the `next_run_at` it
returns, which the next one starts from. In a zone of one offset the stored instant lies
beyond everything emitted. An evaluation that finds nothing stored falls back to `starts_at`,
so the end of the window is where an occurrence can repeat, and where a pending one is
dropped. -/

namespace Taroai.Triggers

def TriggerDefinition.withNextRunAt (trigger : TriggerDefinition) (nextRunAt : Option DateTime) :
    TriggerDefinition :=
  { trigger with nextRunAt := nextRunAt }

structure Watched where
  trigger : TriggerDefinition
  emitted : List Time

namespace Watched

section Runs

variable (zoneInfo : String → Option Zone)

def evaluate (s : Watched) (now : DateTime) : Watched :=
  match evaluateTriggerSchedule zoneInfo s.trigger now with
  | .error _ => s
  | .ok evaluation =>
    { trigger := s.trigger.withNextRunAt evaluation.nextRunAt
      emitted := s.emitted ++ evaluation.dueJobs.map TriggerDueJob.scheduledFor }

def after (trigger : TriggerDefinition) (times : Nat → DateTime) : Nat → Watched
  | 0 => ⟨trigger, []⟩
  | n + 1 => (after trigger times n).evaluate zoneInfo (times n)

end Runs

def Nondecreasing (times : Nat → DateTime) : Prop :=
  ∀ i j, i ≤ j → ensureAware (times i) ≤ ensureAware (times j)

def fallback (schedule : TriggerScheduleConfig) (now : Time) : Time :=
  (schedule.startsAt.map ensureAware).getD now

/-- The evaluation does not start over: when nothing is stored after something was emitted, no
occurrence is due between the start of the window and now. -/
def NothingRecurs (schedule : TriggerScheduleConfig) (zone : Zone) (s : Watched) (now : Time) :
    Prop :=
  s.trigger.nextRunAt = none → s.emitted ≠ [] → schedule.ended now = false →
    ∀ cron, CronSchedule.parse schedule.cronExpression = .ok cron →
      ∀ t : Time, cron.Occurs zone t → fallback schedule now ≤ t → now < t

variable {zoneInfo : String → Option Zone} {trigger : TriggerDefinition}
  {schedule : TriggerScheduleConfig} {times : Nat → DateTime}

theorem evaluate_trigger (s : Watched) (now : DateTime) :
    ∃ nextRunAt, (s.evaluate zoneInfo now).trigger = s.trigger.withNextRunAt nextRunAt := by
  unfold evaluate
  split
  · exact ⟨s.trigger.nextRunAt, rfl⟩
  · exact ⟨_, rfl⟩

theorem after_trigger (zoneInfo : String → Option Zone) (trigger : TriggerDefinition)
    (times : Nat → DateTime) (n : Nat) :
    ∃ nextRunAt, (after zoneInfo trigger times n).trigger = trigger.withNextRunAt nextRunAt := by
  induction n with
  | zero => exact ⟨trigger.nextRunAt, rfl⟩
  | succ n ih =>
    obtain ⟨stored, same⟩ := ih
    rw [after]
    obtain ⟨nextRunAt, changed⟩ := evaluate_trigger (after zoneInfo trigger times n) (times n)
    exact ⟨nextRunAt, changed.trans (by rw [same]; rfl)⟩

theorem after_schedule (n : Nat) :
    (after zoneInfo trigger times n).trigger.schedule = trigger.schedule := by
  obtain ⟨_, same⟩ := after_trigger zoneInfo trigger times n
  rw [same]
  rfl

section FixedZone

variable {cron : CronSchedule} {offset : Int}

theorem increasing_of_successive {first reached : Int} {ts : List Time}
    (successive : Successive cron (Zone.fixed offset) first ts reached) :
    first ≤ reached ∧ ts.Pairwise (· < ·) ∧ ∀ t ∈ ts, first ≤ t ∧ t < reached := by
  induction successive with
  | none t => exact ⟨Int.le_refl t, List.Pairwise.nil, fun _ impossible => by cases impossible⟩
  | more step rest ih =>
    obtain ⟨reaches, increasing, between⟩ := ih
    have later := (CronSchedule.nextAfter_fixed step).1
    refine ⟨le_of_lt (lt_of_lt_of_le later reaches), ?_, fun u member => ?_⟩
    · exact List.Pairwise.cons (fun u member => lt_of_lt_of_le later (between u member).1)
        increasing
    · cases member with
      | head => exact ⟨le_refl _, lt_of_lt_of_le later reaches⟩
      | tail _ member =>
        obtain ⟨after, before⟩ := between u member
        exact ⟨le_of_lt (lt_of_lt_of_le later after), before⟩

theorem mem_or_reached_of_occurs {first reached t : Int} {ts : List Time}
    (successive : Successive cron (Zone.fixed offset) first ts reached)
    (occurs : cron.Occurs (Zone.fixed offset) t) (notBefore : first ≤ t) :
    t ∈ ts ∨ reached ≤ t := by
  induction successive with
  | none => exact .inr notBefore
  | more step rest ih =>
    rcases lt_or_eq_of_le notBefore with later | same
    · have reached := (CronSchedule.nextAfter_fixed step).2.2 t occurs later
      exact (ih reached).imp_left (List.mem_cons_of_mem _)
    · exact .inl (same ▸ List.mem_cons_self)

structure Advanced (s : Watched) : Prop where
  increasing : s.emitted.Pairwise (· < ·)
  stored : ∀ v ∈ s.trigger.nextRunAt, ∀ t ∈ s.emitted, t < ensureAware v

theorem initialNextRunAt_cases {now first : Time} {zone : Zone}
    (initial : initialNextRunAt trigger schedule now cron zone = .ok first) :
    (∃ v ∈ trigger.nextRunAt, ensureAware v = first) ∨
      trigger.nextRunAt = none ∧ cron.nextAtOrAfter (fallback schedule now) zone = .ok first := by
  unfold initialNextRunAt at initial
  split at initial
  · next v stored => exact .inl ⟨v, stored, Except.ok.inj initial⟩
  · next absent => exact .inr ⟨absent, initial⟩

theorem stored_of_withinWindow {reached : Time} {v : DateTime}
    (stored : v ∈ schedule.withinWindow reached) :
    ensureAware v = reached ∧ schedule.ended reached = false := by
  unfold TriggerScheduleConfig.withinWindow at stored
  split at stored
  · cases stored
  · next inside =>
    cases stored
    exact ⟨ensureAware_utc reached, by simpa using inside⟩

theorem evaluate_advanced {s : Watched} {now : DateTime}
    (configured : s.trigger.schedule = some schedule)
    (known : zoneInfo schedule.timezone = some (Zone.fixed offset)) (advanced : s.Advanced)
    (past : ∀ t ∈ s.emitted, t ≤ ensureAware now)
    (fresh : NothingRecurs schedule (Zone.fixed offset) s (ensureAware now)) :
    (s.evaluate zoneInfo now).Advanced ∧
      ∀ t ∈ (s.evaluate zoneInfo now).emitted, t ≤ ensureAware now := by
  unfold evaluate
  split
  · exact ⟨advanced, past⟩
  · next evaluation ran =>
    rcases evaluate_cases ran with ⟨-, same⟩ | ⟨-, -, -, -, same⟩ | found
    · subst same
      refine ⟨⟨?_, ?_⟩, ?_⟩
      · simpa using advanced.increasing
      · simpa [TriggerDefinition.withNextRunAt] using advanced.stored
      · simpa using past
    · subst same
      refine ⟨⟨?_, ?_⟩, ?_⟩
      · simpa using advanced.increasing
      · intro v impossible
        cases impossible
      · simpa using past
    · obtain ⟨schedule', zone, cron, first, reached, evaluated⟩ := found
      obtain rfl : schedule = schedule' :=
        Option.some.inj (configured.symm.trans evaluated.configured)
      obtain rfl : Zone.fixed offset = zone := Option.some.inj (known.symm.trans evaluated.known)
      obtain ⟨reaches, increasing, between⟩ := increasing_of_successive evaluated.caught.successive
      have due : ∀ t ∈ evaluation.dueJobs.map TriggerDueJob.scheduledFor, t ≤ ensureAware now := by
        intro t member
        obtain ⟨job, here, rfl⟩ := List.mem_map.mp member
        exact (evaluated.caught.due job here).1
      have below : ∀ t ∈ s.emitted, t < first := by
        intro t member
        rcases initialNextRunAt_cases evaluated.initial with ⟨v, stored, rfl⟩ | ⟨absent, ran⟩
        · exact advanced.stored v stored t member
        · obtain ⟨from_base, occurs, -⟩ := CronSchedule.nextAtOrAfter_fixed ran
          exact lt_of_le_of_lt (past t member) (fresh absent (List.ne_nil_of_mem member)
            evaluated.inside cron evaluated.parsed first occurs from_base)
      refine ⟨⟨?_, ?_⟩, ?_⟩
      · refine List.pairwise_append.mpr ⟨advanced.increasing, increasing, fun t old u new => ?_⟩
        exact lt_of_lt_of_le (below t old) (between u new).1
      · intro v stored t member
        change v ∈ evaluation.nextRunAt at stored
        rw [evaluated.caught.stored] at stored
        rw [(stored_of_withinWindow stored).1]
        rcases List.mem_append.mp member with old | new
        · exact lt_of_lt_of_le (below t old) reaches
        · exact (between t new).2
      · intro t member
        exact (List.mem_append.mp member).elim (past t) (due t)

/-- Scheduled instants are emitted once each and in order, as long as no evaluation starts over
while an occurrence of the window is due again. -/
theorem emitted_increasing (configured : trigger.schedule = some schedule)
    (known : zoneInfo schedule.timezone = some (Zone.fixed offset))
    (advancing : Nondecreasing times) (n : Nat)
    (fresh : ∀ i, i < n → NothingRecurs schedule (Zone.fixed offset)
      (after zoneInfo trigger times i) (ensureAware (times i))) :
    (after zoneInfo trigger times n).emitted.Pairwise (· < ·) := by
  have advanced : (after zoneInfo trigger times n).Advanced ∧
      ∀ i, n ≤ i → ∀ t ∈ (after zoneInfo trigger times n).emitted, t ≤ ensureAware (times i) := by
    induction n with
    | zero =>
      refine ⟨⟨List.Pairwise.nil, fun _ _ _ impossible => by cases impossible⟩, ?_⟩
      intro i _ t impossible
      cases impossible
    | succ n ih =>
      obtain ⟨before, past⟩ := ih fun i earlier => fresh i (Nat.lt_succ_of_lt earlier)
      obtain ⟨kept, due⟩ := evaluate_advanced ((after_schedule n).trans configured) known before
        (past n (Nat.le_refl n)) (fresh n (Nat.lt_succ_self n))
      exact ⟨kept, fun i later t member =>
        (due t member).trans (advancing n i (Nat.le_of_succ_le later))⟩
  exact advanced.1.increasing

end FixedZone

section Minutes

def everyMinute (startsAt endsAt : Option DateTime)
    (window : ∀ s ∈ startsAt, ∀ e ∈ endsAt, ensureAware s ≤ ensureAware e) :
    TriggerScheduleConfig where
  cronExpression := "* * * * *"
  startsAt := startsAt
  endsAt := endsAt
  maxCatchUpRuns_pos := Nat.one_pos
  window := window

theorem unbounded : ∀ s ∈ (none : Option DateTime), ∀ e ∈ (none : Option DateTime),
    ensureAware s ≤ ensureAware e := nofun

theorem user_accountable :
    (some "user").any (· ≠ "") = true ∨ (none : Option String).any (· ≠ "") = true := .inl rfl

def scheduledBy (schedule : TriggerScheduleConfig) (nextRunAt : Option DateTime) :
    TriggerDefinition where
  id := "trigger"
  tenantId := "tenant"
  workspaceId := "workspace"
  createdByUserId := some "user"
  type := .schedule
  name := "every minute"
  schedule := some schedule
  nextRunAt := nextRunAt
  accountable := user_accountable
  scheduled := rfl

def utcOnly (timezone : String) : Option Zone :=
  if timezone = "UTC" then some (Zone.fixed 0) else none

theorem nondecreasing_of_steps {start step : Int} (forward : 0 ≤ step) :
    Nondecreasing fun n => DateTime.utc (start + step * n) := by
  intro i j before
  rw [ensureAware_utc, ensureAware_utc]
  have scaled : step * (i : Int) ≤ step * (j : Int) :=
    mul_le_mul_of_nonneg_left (Int.ofNat_le.mpr before) forward
  exact add_le_add_right scaled start

/-- With an open end the next minute is stored after each evaluation. -/
theorem emitted_increasing_everyMinute :
    (after utcOnly (scheduledBy (everyMinute (some (DateTime.utc 0)) none (by decide)) none)
      (fun n => DateTime.utc (0 + minute * n)) 3).emitted.Pairwise (· < ·) := by
  refine emitted_increasing rfl rfl (nondecreasing_of_steps (by decide)) 3 fun i below => ?_
  match i, below with
  | 0, _ => exact fun _ nonempty => absurd rfl nonempty
  | 1, _ => exact fun absent => absurd absent (by decide +kernel)
  | 2, _ => exact fun absent => absurd absent (by decide +kernel)

def halfMinute : TriggerDefinition :=
  scheduledBy (everyMinute (some (DateTime.utc 0)) (some (DateTime.utc (seconds 30)))
    (by decide)) none

def everyTenSeconds (n : Nat) : DateTime := DateTime.utc (0 + seconds 10 * n)

/-- The evaluations at 0 s and 10 s both emit the occurrence at 0 s. -/
theorem halfMinute_emits_twice :
    Nondecreasing everyTenSeconds ∧
      (after utcOnly halfMinute everyTenSeconds 2).emitted = [0, 0] ∧
      ¬ (after utcOnly halfMinute everyTenSeconds 2).emitted.Pairwise (· < ·) := by
  refine ⟨nondecreasing_of_steps (by decide), ?_, ?_⟩ <;> decide +kernel

end Minutes

end Watched

end Taroai.Triggers
