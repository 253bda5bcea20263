import Mathlib
import Taroai.Triggers.Cron

/-! `evaluate_trigger_schedule` of `triggers/scheduler.py` over the trigger records of
`triggers/models.py`. The time zone database is a parameter: a name stands for a zone or is
unknown. Each round of the loop is an occurrence that is due (`catchUp`); one case analysis
(`evaluate_cases`) says what an evaluation can return. -/

namespace Taroai.Triggers

inductive TriggerType where
  | schedule
  | webhook
  | api
  | connectorEvent
  | agentHandoff
deriving DecidableEq, Repr

def TriggerType.value : TriggerType → String
  | schedule => "schedule"
  | webhook => "webhook"
  | api => "api"
  | connectorEvent => "connector_event"
  | agentHandoff => "agent_handoff"

inductive TriggerStatus where
  | enabled
  | disabled
deriving DecidableEq, Repr

structure TriggerScheduleConfig where
  cronExpression : String
  timezone : String := "UTC"
  startsAt : Option DateTime := none
  endsAt : Option DateTime := none
  maxCatchUpRuns : Nat := 1
  maxCatchUpRuns_pos : maxCatchUpRuns ≥ 1
  window : ∀ s ∈ startsAt, ∀ e ∈ endsAt, ensureAware s ≤ ensureAware e
deriving DecidableEq

/-- `text or other` of two optional texts: the empty text counts as missing. -/
def orText (text other : Option String) : Option String :=
  if text.any (· ≠ "") then text else other

structure TriggerDefinition where
  id : String
  tenantId : String
  workspaceId : String
  agentId : Option String := none
  createdByUserId : Option String := none
  serviceAccountId : Option String := none
  type : TriggerType
  name : String
  status : TriggerStatus := .enabled
  /-- The `message` of the input template when it is a string. -/
  message : Option String := none
  schedule : Option TriggerScheduleConfig := none
  /-- The target of an agent handoff. -/
  targetAgentId : Option String := none
  nextRunAt : Option DateTime := none
  accountable : createdByUserId.any (· ≠ "") = true ∨ serviceAccountId.any (· ≠ "") = true
  scheduled : schedule.isSome = decide (type = .schedule)
deriving DecidableEq

structure TriggerDueJob where
  tenantId : String
  workspaceId : String
  triggerId : String
  triggerType : String
  scheduledFor : Time
  requestedByUserId : String
deriving DecidableEq, Repr

structure TriggerScheduleEvaluation where
  dueJobs : List TriggerDueJob := []
  nextRunAt : Option DateTime := none
deriving DecidableEq, Repr

def buildDueJob (trigger : TriggerDefinition) (scheduledFor : Time) :
    Except String TriggerDueJob :=
  match orText trigger.serviceAccountId trigger.createdByUserId with
  | none => .error s!"trigger {trigger.id} has no accountable identity"
  | some requestedByUserId =>
    .ok
      { tenantId := trigger.tenantId
        workspaceId := trigger.workspaceId
        triggerId := trigger.id
        triggerType := trigger.type.value
        scheduledFor := scheduledFor
        requestedByUserId := requestedByUserId }

namespace TriggerScheduleConfig

/-- `schedule.ends_at is not None and t > ends_at` -/
def ended (schedule : TriggerScheduleConfig) (t : Time) : Bool :=
  schedule.endsAt.any fun endsAt => decide (ensureAware endsAt < t)

def withinWindow (schedule : TriggerScheduleConfig) (t : Time) : Option DateTime :=
  if schedule.ended t then none else some (DateTime.utc t)

end TriggerScheduleConfig

def initialNextRunAt (trigger : TriggerDefinition) (schedule : TriggerScheduleConfig)
    (now : Time) (cron : CronSchedule) (zone : Zone) : Except String Time :=
  match trigger.nextRunAt with
  | some stored => .ok (ensureAware stored)
  | none => cron.nextAtOrAfter ((schedule.startsAt.map ensureAware).getD now) zone

/-- The loop of `evaluate_trigger_schedule` with the number of jobs it may still add. -/
def catchUp (trigger : TriggerDefinition) (schedule : TriggerScheduleConfig) (now : Time)
    (cron : CronSchedule) (zone : Zone) : Nat → Time → Except String TriggerScheduleEvaluation
  | 0, nextRunAt => .ok ⟨[], schedule.withinWindow nextRunAt⟩
  | left + 1, nextRunAt =>
    if nextRunAt ≤ now then
      if schedule.ended nextRunAt then .ok ⟨[], none⟩
      else do
        let job ← buildDueJob trigger nextRunAt
        let following ← cron.nextAfter nextRunAt zone
        let rest ← catchUp trigger schedule now cron zone left following
        pure { rest with dueJobs := job :: rest.dueJobs }
    else .ok ⟨[], schedule.withinWindow nextRunAt⟩

section Evaluation

variable (zoneInfo : String → Option Zone)

def loadZone (timezone : String) : Except String Zone :=
  match zoneInfo timezone with
  | some zone => .ok zone
  | none => .error s!"No time zone found with key {timezone}"

def evaluateTriggerSchedule (trigger : TriggerDefinition) (now : DateTime) :
    Except String TriggerScheduleEvaluation :=
  match trigger.schedule with
  | none => .ok { nextRunAt := trigger.nextRunAt }
  | some schedule =>
    if trigger.type ≠ .schedule then .ok { nextRunAt := trigger.nextRunAt }
    else if trigger.status = .disabled then .ok { nextRunAt := trigger.nextRunAt }
    else if schedule.ended (ensureAware now) then .ok {}
    else do
      let zone ← loadZone zoneInfo schedule.timezone
      let cron ← CronSchedule.parse schedule.cronExpression
      let nextRunAt ← initialNextRunAt trigger schedule (ensureAware now) cron zone
      catchUp trigger schedule (ensureAware now) cron zone schedule.maxCatchUpRuns nextRunAt

end Evaluation

theorem bind_eq_ok {ε α β : Type} {x : Except ε α} {f : α → Except ε β} {b : β} :
    x >>= f = .ok b ↔ ∃ a, x = .ok a ∧ f a = .ok b := by
  cases x with
  | error e =>
    constructor
    · intro impossible
      cases impossible
    · rintro ⟨_, impossible, _⟩
      cases impossible
  | ok a =>
    constructor
    · exact fun h => ⟨a, rfl, h⟩
    · rintro ⟨_, same, h⟩
      cases same
      exact h

/-- The occurrences from one instant on, by repeated `next_after`, and the one after them. -/
inductive Successive (cron : CronSchedule) (zone : Zone) : Time → List Time → Time → Prop
  | none (t : Time) : Successive cron zone t [] t
  | more {t following reached : Time} {later : List Time}
      (step : cron.nextAfter t zone = .ok following)
      (rest : Successive cron zone following later reached) :
      Successive cron zone t (t :: later) reached

theorem buildDueJob_ok {trigger : TriggerDefinition} {t : Time} {job : TriggerDueJob}
    (built : buildDueJob trigger t = .ok job) :
    job.scheduledFor = t ∧ job.triggerId = trigger.id ∧ job.tenantId = trigger.tenantId := by
  unfold buildDueJob at built
  split at built
  · cases built
  · cases built
    exact ⟨rfl, rfl, rfl⟩

section CatchUp

variable {trigger : TriggerDefinition} {schedule : TriggerScheduleConfig} {now : Time}
  {cron : CronSchedule} {zone : Zone}

/-- What the loop returns: the due occurrences from the first on, and where it stopped. -/
structure CaughtUp (schedule : TriggerScheduleConfig) (now : Time) (cron : CronSchedule)
    (zone : Zone) (left : Nat) (first : Time) (evaluation : TriggerScheduleEvaluation)
    (reached : Time) : Prop where
  successive :
    Successive cron zone first (evaluation.dueJobs.map TriggerDueJob.scheduledFor) reached
  stored : evaluation.nextRunAt = schedule.withinWindow reached
  due : ∀ job ∈ evaluation.dueJobs, job.scheduledFor ≤ now ∧ schedule.ended job.scheduledFor = false
  bounded : evaluation.dueJobs.length ≤ left
  whole : evaluation.dueJobs.length < left → now < reached ∨ schedule.ended reached = true

theorem catchUp_ok {left : Nat} {first : Time} {evaluation : TriggerScheduleEvaluation}
    (ran : catchUp trigger schedule now cron zone left first = .ok evaluation) :
    ∃ reached, CaughtUp schedule now cron zone left first evaluation reached := by
  induction left generalizing first evaluation with
  | zero =>
    cases ran
    exact ⟨first, .none first, rfl, by simp, Nat.le_refl 0, fun impossible => by cases impossible⟩
  | succ left ih =>
    rw [catchUp] at ran
    split at ran
    · next pending =>
      split at ran
      · next ended =>
        cases ran
        have stored : (none : Option DateTime) = schedule.withinWindow first := by
          rw [TriggerScheduleConfig.withinWindow, if_pos ended]
        exact ⟨first, .none first, stored, by simp, Nat.zero_le _, fun _ => .inr ended⟩
      · next inside =>
        obtain ⟨job, built, ran⟩ := bind_eq_ok.mp ran
        obtain ⟨following, next, ran⟩ := bind_eq_ok.mp ran
        obtain ⟨rest, looped, same⟩ := bind_eq_ok.mp ran
        cases same
        obtain ⟨reached, caught⟩ := ih looped
        obtain ⟨scheduledFor, -, -⟩ := buildDueJob_ok built
        refine ⟨reached, ?_, caught.stored, ?_, ?_, ?_⟩
        · change Successive cron zone first (job.scheduledFor :: rest.dueJobs.map _) reached
          rw [scheduledFor]
          exact .more next caught.successive
        · intro other member
          cases member with
          | head => exact scheduledFor ▸ ⟨pending, by simpa using inside⟩
          | tail _ later => exact caught.due other later
        · exact Nat.succ_le_succ caught.bounded
        · exact fun fewer => caught.whole (Nat.lt_of_succ_lt_succ fewer)
    · next early =>
      cases ran
      exact ⟨first, .none first, rfl, by simp, Nat.zero_le _,
        fun _ => .inl (Int.not_le.mp early)⟩

end CatchUp

/-- An evaluation that looks for due occurrences: what it starts from and what it returns. -/
structure Evaluated (zoneInfo : String → Option Zone) (trigger : TriggerDefinition) (now : Time)
    (schedule : TriggerScheduleConfig) (zone : Zone) (cron : CronSchedule) (first : Time)
    (evaluation : TriggerScheduleEvaluation) (reached : Time) : Prop where
  configured : trigger.schedule = some schedule
  enabled : trigger.status = .enabled
  inside : schedule.ended now = false
  known : zoneInfo schedule.timezone = some zone
  parsed : CronSchedule.parse schedule.cronExpression = .ok cron
  initial : initialNextRunAt trigger schedule now cron zone = .ok first
  caught : CaughtUp schedule now cron zone schedule.maxCatchUpRuns first evaluation reached

theorem evaluate_cases {zoneInfo : String → Option Zone} {trigger : TriggerDefinition}
    {now : DateTime} {evaluation : TriggerScheduleEvaluation}
    (ran : evaluateTriggerSchedule zoneInfo trigger now = .ok evaluation) :
    ((trigger.schedule = none ∨ trigger.status = .disabled) ∧
      evaluation = { nextRunAt := trigger.nextRunAt }) ∨
    (∃ schedule, trigger.schedule = some schedule ∧ trigger.status = .enabled ∧
      schedule.ended (ensureAware now) = true ∧ evaluation = {}) ∨
    (∃ schedule zone cron first reached,
      Evaluated zoneInfo trigger (ensureAware now) schedule zone cron first evaluation reached) := by
  unfold evaluateTriggerSchedule at ran
  split at ran
  · next absent =>
    cases ran
    exact .inl ⟨.inl absent, rfl⟩
  · next schedule present =>
    have type : trigger.type = .schedule := by
      simpa [present] using trigger.scheduled.symm
    rw [if_neg (not_not.mpr type)] at ran
    split at ran
    · next disabled =>
      cases ran
      exact .inl ⟨.inr disabled, rfl⟩
    · next running =>
      have enabled : trigger.status = .enabled := by
        cases status : trigger.status with
        | enabled => rfl
        | disabled => exact absurd status running
      split at ran
      · next ended =>
        cases ran
        exact .inr (.inl ⟨schedule, present, enabled, ended, rfl⟩)
      · next inside =>
        obtain ⟨zone, loaded, ran⟩ := bind_eq_ok.mp ran
        obtain ⟨cron, parsed, ran⟩ := bind_eq_ok.mp ran
        obtain ⟨first, initial, ran⟩ := bind_eq_ok.mp ran
        obtain ⟨reached, caught⟩ := catchUp_ok ran
        have known : zoneInfo schedule.timezone = some zone := by
          unfold loadZone at loaded
          split at loaded
          · next found =>
            cases loaded
            exact found
          · cases loaded
        exact .inr (.inr ⟨schedule, zone, cron, first, reached,
          present, enabled, by simpa using inside, known, parsed, initial, caught⟩)

end Taroai.Triggers
