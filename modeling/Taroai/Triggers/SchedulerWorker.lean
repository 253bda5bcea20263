import Mathlib
import Taroai.Lib.Raising
import Taroai.Lib.Table
import Taroai.Triggers.Emissions
import Taroai.Workers.Job

/-! `TriggerSchedulerWorker.process_due` over the in-memory trigger store. One pass goes
through the schedule triggers of all tenants; nothing catches what an evaluation raises, so
the pass ends at the first trigger that raises (`enqueuedBy`). -/

namespace Taroai.Triggers

open Workers (JobType)

inductive TriggerError where
  | notFound (message : String)
  | tenantAccess (message : String)
  | value (message : String)
deriving DecidableEq, Repr

abbrev TriggerStore := Table TriggerDefinition.id

/-- A call of the queue's `enqueue`. -/
structure EnqueueCall where
  jobType : JobType
  payload : TriggerDueJob
  now : DateTime
  maxAttempts : Nat
deriving DecidableEq, Repr

/-- The metadata of `trigger.schedule.evaluated`. -/
structure ScheduleAudit where
  tenantId : String
  workspaceId : String
  userId : Option String
  triggerId : String
  triggerType : String
  workerId : String
  dueJobCount : Nat
  previousNextRunAt : Option DateTime
  nextRunAt : Option DateTime
  evaluatedAt : DateTime
deriving DecidableEq, Repr

structure SchedulerState where
  store : TriggerStore
  enqueued : List EnqueueCall
  audits : List ScheduleAudit

structure TriggerSchedulerResult where
  scannedTriggers : Nat := 0
  enqueuedJobs : Nat := 0
  updatedTriggers : Nat := 0
  lastTriggerId : Option String := none
deriving DecidableEq, Repr

structure TriggerSchedulerWorker where
  audited : Bool := false
  workerId : String := "trigger_scheduler"
  maxAttempts : Nat := 3
  maxAttempts_pos : 1 ≤ maxAttempts

/-- `==` of two optional datetimes: a naive one never equals an aware one. -/
def sameDateTime (a b : Option DateTime) : Bool :=
  match a, b with
  | none, none => true
  | some a, some b =>
    decide (a.utcOffset.isSome = b.utcOffset.isSome) && decide (ensureAware a = ensureAware b)
  | none, some _ | some _, none => false

def TriggerStore.listScheduleTriggers (store : TriggerStore) : List TriggerDefinition :=
  store.entries.filter fun trigger => decide (trigger.type = .schedule)

namespace SchedulerState

abbrev Operation := Raising TriggerError SchedulerState

def get (tenantId triggerId : String) : Operation TriggerDefinition := do
  match ← Raising.read fun s => s.store.get? triggerId with
  | none => Raising.raise (.notFound s!"Trigger not found: {triggerId}")
  | some trigger =>
    Raising.ensure (trigger.tenantId = tenantId)
      (.tenantAccess s!"Trigger {triggerId} is not in tenant {tenantId}")
    pure trigger

def updateNextRunAt (tenantId triggerId : String) (nextRunAt : Option DateTime) :
    Operation Unit := do
  let trigger ← get tenantId triggerId
  Raising.update fun s => { s with store := s.store.put (trigger.withNextRunAt nextRunAt) }

end SchedulerState

namespace TriggerSchedulerWorker

open SchedulerState

variable (zoneInfo : String → Option Zone) (worker : TriggerSchedulerWorker) (now : DateTime)

def evaluate (trigger : TriggerDefinition) : Operation TriggerScheduleEvaluation :=
  match evaluateTriggerSchedule zoneInfo trigger now with
  | .ok evaluation => pure evaluation
  | .error message => Raising.raise (.value message)

def enqueue (evaluation : TriggerScheduleEvaluation) : Operation Unit :=
  Raising.update fun s =>
    { s with
      enqueued := s.enqueued ++ evaluation.dueJobs.map fun job =>
        ⟨.triggerDue, job, now, worker.maxAttempts⟩ }

def recordScheduleAudit (trigger : TriggerDefinition) (evaluation : TriggerScheduleEvaluation) :
    Operation Unit :=
  if worker.audited then
    Raising.update fun s =>
      { s with
        audits := s.audits ++
          [{ tenantId := trigger.tenantId
             workspaceId := trigger.workspaceId
             userId := orText trigger.serviceAccountId trigger.createdByUserId
             triggerId := trigger.id
             triggerType := trigger.type.value
             workerId := worker.workerId
             dueJobCount := evaluation.dueJobs.length
             previousNextRunAt := trigger.nextRunAt
             nextRunAt := evaluation.nextRunAt
             evaluatedAt := now }] }
  else pure ()

def nextRunUpdated (trigger : TriggerDefinition) (evaluation : TriggerScheduleEvaluation) : Bool :=
  !sameDateTime evaluation.nextRunAt trigger.nextRunAt

def storeNextRunAt (trigger : TriggerDefinition) (evaluation : TriggerScheduleEvaluation) :
    Operation Unit :=
  if nextRunUpdated trigger evaluation then
    updateNextRunAt trigger.tenantId trigger.id evaluation.nextRunAt
  else pure ()

def auditChange (trigger : TriggerDefinition) (evaluation : TriggerScheduleEvaluation) :
    Operation Unit :=
  if !evaluation.dueJobs.isEmpty || nextRunUpdated trigger evaluation then
    recordScheduleAudit worker now trigger evaluation
  else pure ()

def processTrigger (trigger : TriggerDefinition) (result : TriggerSchedulerResult) :
    Operation TriggerSchedulerResult := do
  let evaluation ← evaluate zoneInfo now trigger
  enqueue worker now evaluation
  storeNextRunAt trigger evaluation
  auditChange worker now trigger evaluation
  pure
    { scannedTriggers := result.scannedTriggers + 1
      enqueuedJobs := result.enqueuedJobs + evaluation.dueJobs.length
      updatedTriggers :=
        result.updatedTriggers + if nextRunUpdated trigger evaluation then 1 else 0
      lastTriggerId := some trigger.id }

def processAll : List TriggerDefinition → TriggerSchedulerResult →
    Operation TriggerSchedulerResult
  | [], result => pure result
  | trigger :: rest, result => do
    let result ← processTrigger zoneInfo worker now trigger result
    processAll rest result

/-- The triggers are listed once, before the loop. -/
def processDue : Operation TriggerSchedulerResult := do
  let triggers ← Raising.read fun s => s.store.listScheduleTriggers
  processAll zoneInfo worker now triggers {}

variable {zoneInfo} {worker} {now}

def dueJobs (zoneInfo : String → Option Zone) (now : DateTime) (trigger : TriggerDefinition) :
    List TriggerDueJob :=
  match evaluateTriggerSchedule zoneInfo trigger now with
  | .ok evaluation => evaluation.dueJobs
  | .error _ => []

def raises (zoneInfo : String → Option Zone) (now : DateTime) (trigger : TriggerDefinition) :
    Bool :=
  match evaluateTriggerSchedule zoneInfo trigger now with
  | .ok _ => false
  | .error _ => true

/-- What a pass enqueues: the due jobs of the triggers before the first one that raises. -/
def enqueuedBy (zoneInfo : String → Option Zone) (now : DateTime) (triggers : List TriggerDefinition) :
    List TriggerDueJob :=
  (triggers.takeWhile fun trigger => !raises zoneInfo now trigger).flatMap (dueJobs zoneInfo now)

theorem sameDateTime_self (value : Option DateTime) : sameDateTime value value = true := by
  cases value <;> simp [sameDateTime]

theorem processTrigger_error {trigger : TriggerDefinition} {result : TriggerSchedulerResult}
    {message : String} (failed : evaluateTriggerSchedule zoneInfo trigger now = .error message)
    (s : SchedulerState) :
    processTrigger zoneInfo worker now trigger result s = (.error (.value message), s) := by
  refine Raising.bind_of_error ?_ _
  rw [evaluate, failed]
  rfl

theorem updateNextRunAt_ok {s : SchedulerState} {trigger : TriggerDefinition}
    (stored : s.store.get? trigger.id = some trigger) (nextRunAt : Option DateTime) :
    updateNextRunAt trigger.tenantId trigger.id nextRunAt s =
      (.ok (), { s with store := s.store.put (trigger.withNextRunAt nextRunAt) }) := by
  have got : SchedulerState.get trigger.tenantId trigger.id s = (.ok trigger, s) := by
    rw [SchedulerState.get, Raising.read_bind, stored]
    exact (Raising.ensure_bind _ _ _ s).trans (if_pos rfl)
  exact Raising.bind_of_ok got _

theorem storeNextRunAt_ok {s : SchedulerState} {trigger : TriggerDefinition}
    (stored : s.store.get? trigger.id = some trigger) (evaluation : TriggerScheduleEvaluation) :
    ∃ s' nextRunAt, storeNextRunAt trigger evaluation s = (.ok (), s') ∧
      s'.enqueued = s.enqueued ∧ sameDateTime evaluation.nextRunAt nextRunAt = true ∧
      ∀ id, s'.store.get? id =
        if id = trigger.id then some (trigger.withNextRunAt nextRunAt) else s.store.get? id := by
  unfold storeNextRunAt
  split
  · exact ⟨_, evaluation.nextRunAt, updateNextRunAt_ok stored _, rfl, sameDateTime_self _,
      fun id => Table.get?_put _ _ id⟩
  · next unchanged =>
    refine ⟨s, trigger.nextRunAt, rfl, rfl, by simpa [nextRunUpdated] using unchanged, ?_⟩
    intro id
    split
    · next same => exact same ▸ stored
    · rfl

theorem auditChange_ok (worker : TriggerSchedulerWorker) (now : DateTime)
    (trigger : TriggerDefinition) (evaluation : TriggerScheduleEvaluation) (s : SchedulerState) :
    ∃ audits, auditChange worker now trigger evaluation s = (.ok (), { s with audits := audits }) := by
  unfold auditChange recordScheduleAudit
  split
  · split
    · exact ⟨_, rfl⟩
    · exact ⟨s.audits, rfl⟩
  · exact ⟨s.audits, rfl⟩

/-- The spec of one round: the due jobs are enqueued and the evaluation's `next_run_at` is
stored, no other trigger changes. -/
theorem processTrigger_ok {s : SchedulerState} {trigger : TriggerDefinition}
    {evaluation : TriggerScheduleEvaluation} (worker : TriggerSchedulerWorker)
    (result : TriggerSchedulerResult)
    (evaluated : evaluateTriggerSchedule zoneInfo trigger now = .ok evaluation)
    (stored : s.store.get? trigger.id = some trigger) :
    ∃ result' s' nextRunAt,
      processTrigger zoneInfo worker now trigger result s = (.ok result', s') ∧
      s'.enqueued = s.enqueued ++
        evaluation.dueJobs.map (⟨.triggerDue, ·, now, worker.maxAttempts⟩) ∧
      sameDateTime evaluation.nextRunAt nextRunAt = true ∧
      ∀ id, s'.store.get? id =
        if id = trigger.id then some (trigger.withNextRunAt nextRunAt) else s.store.get? id := by
  have ran : evaluate zoneInfo now trigger s = (.ok evaluation, s) := by
    rw [evaluate, evaluated]
    rfl
  rw [processTrigger, Raising.bind_of_ok ran, enqueue, Raising.update_bind]
  obtain ⟨s', nextRunAt, wrote, same, agrees, lookup⟩ := storeNextRunAt_ok
    (s := { s with enqueued := s.enqueued ++
      evaluation.dueJobs.map (⟨.triggerDue, ·, now, worker.maxAttempts⟩) }) stored evaluation
  obtain ⟨audits, audited⟩ := auditChange_ok worker now trigger evaluation s'
  rw [Raising.bind_of_ok wrote, Raising.bind_of_ok audited]
  exact ⟨_, _, nextRunAt, rfl, same, agrees, lookup⟩

theorem processAll_enqueued (triggers : List TriggerDefinition) (result : TriggerSchedulerResult)
    (s : SchedulerState) (distinct : (triggers.map TriggerDefinition.id).Nodup)
    (stored : ∀ trigger ∈ triggers, s.store.get? trigger.id = some trigger) :
    (processAll zoneInfo worker now triggers result s).2.enqueued = s.enqueued ++
      (enqueuedBy zoneInfo now triggers).map (⟨.triggerDue, ·, now, worker.maxAttempts⟩) := by
  induction triggers generalizing result s with
  | nil => simp [processAll, enqueuedBy]
  | cons trigger rest ih =>
    rw [processAll]
    cases evaluated : evaluateTriggerSchedule zoneInfo trigger now with
    | error message =>
      rw [Raising.bind_of_error (processTrigger_error evaluated s)]
      simp [enqueuedBy, raises, evaluated]
    | ok evaluation =>
      obtain ⟨result', s', nextRunAt, ran, enqueued, -, lookup⟩ :=
        processTrigger_ok worker result evaluated (stored trigger List.mem_cons_self)
      rw [List.map_cons, List.nodup_cons] at distinct
      have others : ∀ other ∈ rest, s'.store.get? other.id = some other := by
        intro other member
        have differs : other.id ≠ trigger.id :=
          fun same => distinct.1 (same ▸ List.mem_map_of_mem member)
        rw [lookup, if_neg differs]
        exact stored other (List.mem_cons_of_mem _ member)
      rw [Raising.bind_of_ok ran, ih result' s' distinct.2 others, enqueued]
      simp [enqueuedBy, raises, dueJobs, evaluated]

theorem enqueuedBy_perm_iff (triggers : List TriggerDefinition) :
    (enqueuedBy zoneInfo now triggers).Perm (triggers.flatMap (dueJobs zoneInfo now)) ↔
      triggers.Pairwise fun earlier later =>
        raises zoneInfo now earlier = true → dueJobs zoneInfo now later = [] := by
  induction triggers with
  | nil => simp [enqueuedBy]
  | cons trigger rest ih =>
    rw [List.pairwise_cons, List.flatMap_cons]
    cases evaluated : evaluateTriggerSchedule zoneInfo trigger now with
    | error message =>
      have raised : raises zoneInfo now trigger = true := by rw [raises, evaluated]
      have none_due : dueJobs zoneInfo now trigger = [] := by rw [dueJobs, evaluated]
      have stopped : enqueuedBy zoneInfo now (trigger :: rest) = [] := by
        simp [enqueuedBy, raised]
      rw [stopped, none_due, List.nil_append, List.nil_perm, List.flatMap_eq_nil_iff]
      constructor
      · exact fun idle => ⟨fun other member _ => idle other member,
          List.pairwise_of_forall_mem_list fun _ _ later member _ => idle later member⟩
      · exact fun shadowed other member => shadowed.1 other member raised
    | ok evaluation =>
      have passed : raises zoneInfo now trigger = false := by rw [raises, evaluated]
      have goes_on : enqueuedBy zoneInfo now (trigger :: rest) =
          dueJobs zoneInfo now trigger ++ enqueuedBy zoneInfo now rest := by
        simp [enqueuedBy, passed]
      rw [goes_on, List.perm_append_left_iff, ih]
      simp [passed]

section Blocked

def malformed : TriggerDefinition where
  id := "malformed"
  tenantId := "other tenant"
  workspaceId := "workspace"
  createdByUserId := some "user"
  type := .schedule
  name := "malformed"
  schedule := some
    { cronExpression := "hourly"
      maxCatchUpRuns_pos := Nat.one_pos
      window := Watched.unbounded }
  accountable := Watched.user_accountable
  scheduled := rfl

def overdue : TriggerDefinition :=
  Watched.scheduledBy (Watched.everyMinute none none Watched.unbounded) (some (DateTime.utc 0))

def blocked : SchedulerState := ⟨⟨[malformed, overdue], by decide⟩, [], []⟩

end Blocked

end TriggerSchedulerWorker

end Taroai.Triggers
