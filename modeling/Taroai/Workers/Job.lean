import Mathlib
import Taroai.Clock

/-! The job envelope of `workers/models.py` and the updates that both queue backends
apply to it. The payload is the JSON dump of a job model and stays a type variable. Every
update is one `model_copy`, so the job keeps its identifier, type, payload, creation time
and budget. -/

namespace Taroai.Workers

inductive JobType where
  | runExecution
  | triggerDue
  | restoreDrillDue
  | restoreDrillExecution
  | restoreDrillEvidence
  | connectorSync
  | billingAggregation
  | cleanup
deriving DecidableEq, Repr

def JobType.members : List JobType :=
  [.runExecution, .triggerDue, .restoreDrillDue, .restoreDrillExecution, .restoreDrillEvidence,
    .connectorSync, .billingAggregation, .cleanup]

inductive JobStatus where
  | pending
  | running
  | succeeded
  | failed
  | deadLetter
  | cancelled
deriving DecidableEq, Repr

def JobStatus.final : JobStatus → Bool
  | .succeeded | .failed | .deadLetter => true
  | .pending | .running | .cancelled => false

structure JobEnvelope (P : Type) where
  id : String
  type : JobType
  payload : P
  status : JobStatus := .pending
  createdAt : Time
  availableAt : Time
  startedAt : Option Time := none
  completedAt : Option Time := none
  leaseExpiresAt : Option Time := none
  workerId : Option String := none
  attempts : Nat := 0
  maxAttempts : Nat := 3
  maxAttempts_pos : 0 < maxAttempts
  error : Option String := none
deriving DecidableEq

inductive QueueError where
  | notFound (message : String)
  | invalidMaxAttempts
deriving DecidableEq, Repr

def jobNotFound (jobId : String) : QueueError := .notFound s!"Job not found: {jobId}"

inductive Verdict where
  | ack
  | fail (error : String)
  | reject (error : String) (retryDelaySeconds : Int)
deriving DecidableEq, Repr

namespace JobEnvelope

variable {P : Type}

def claimedBy (job : JobEnvelope P) (workerId : String) (now : Time) (leaseSeconds : Int) :
    JobEnvelope P :=
  { job with
    status := .running
    workerId := some workerId
    startedAt := some now
    leaseExpiresAt := some (now + seconds leaseSeconds)
    attempts := job.attempts + 1
    error := none }

def acked (job : JobEnvelope P) (now : Time) : JobEnvelope P :=
  { job with
    status := .succeeded
    completedAt := some now
    leaseExpiresAt := none
    error := none }

def failed (job : JobEnvelope P) (error : String) (now : Time) : JobEnvelope P :=
  { job with
    status := .failed
    completedAt := some now
    leaseExpiresAt := none
    error := some error }

def requeued (job : JobEnvelope P) (error : String) (availableAt : Time) : JobEnvelope P :=
  { job with
    status := .pending
    availableAt := availableAt
    leaseExpiresAt := none
    workerId := none
    completedAt := none
    error := some error }

def deadLettered (job : JobEnvelope P) (error : String) (now : Time) : JobEnvelope P :=
  { job with
    status := .deadLetter
    completedAt := some now
    leaseExpiresAt := none
    error := some error }

/-- The branch `reject` and the reaping loop share: retry within the budget, else give up. -/
def returned (job : JobEnvelope P) (error : String) (availableAt now : Time) : JobEnvelope P :=
  if job.attempts < job.maxAttempts then job.requeued error availableAt
  else job.deadLettered error now

def rejected (job : JobEnvelope P) (error : String) (retryDelaySeconds : Int) (now : Time) :
    JobEnvelope P :=
  job.returned error (now + seconds retryDelaySeconds) now

def reaped (job : JobEnvelope P) (error : String) (now : Time) : JobEnvelope P :=
  job.returned error now now

def finished (job : JobEnvelope P) (verdict : Verdict) (now : Time) : JobEnvelope P :=
  match verdict with
  | .ack => job.acked now
  | .fail error => job.failed error now
  | .reject error retryDelaySeconds => job.rejected error retryDelaySeconds now

def leaseExpired (job : JobEnvelope P) (now : Time) : Bool :=
  decide (job.status = .running) && job.leaseExpiresAt.any fun expiry => decide (expiry ≤ now)

theorem leaseExpired_iff {job : JobEnvelope P} {now : Time} :
    job.leaseExpired now = true ↔
      job.status = .running ∧ ∃ expiry, job.leaseExpiresAt = some expiry ∧ expiry ≤ now := by
  cases h : job.leaseExpiresAt <;> simp [leaseExpired, h]

def due (job : JobEnvelope P) (jobType : Option JobType) (now : Time) : Bool :=
  jobType.all (fun t => decide (job.type = t)) && job.leaseExpired now

theorem due_iff {job : JobEnvelope P} {jobType : Option JobType} {now : Time} :
    job.due jobType now = true ↔ (∀ t ∈ jobType, job.type = t) ∧ job.leaseExpired now = true := by
  cases jobType <;> simp [due]

theorem running_of_due {job : JobEnvelope P} {jobType : Option JobType} {now : Time}
    (h : job.due jobType now = true) : job.status = .running :=
  (leaseExpired_iff.mp (due_iff.mp h).2).1

def swept (job : JobEnvelope P) (jobType : Option JobType) (error : String) (now : Time) :
    JobEnvelope P :=
  if job.due jobType now then job.reaped error now else job

/-- `claim` takes a pending job of the requested type that is already available. -/
def claimable (job : JobEnvelope P) (jobType : JobType) (now : Time) : Bool :=
  decide (job.type = jobType) && decide (job.status = .pending) && decide (job.availableAt ≤ now)

theorem pending_of_claimable {job : JobEnvelope P} {jobType : JobType} {now : Time}
    (h : job.claimable jobType now = true) : job.status = .pending := by
  simp only [claimable, Bool.and_eq_true, decide_eq_true_eq] at h
  exact h.1.2

section Fields

variable (job : JobEnvelope P) (error workerId : String) (now availableAt : Time)
  (leaseSeconds retryDelaySeconds : Int) (verdict : Verdict)

@[simp] theorem claimedBy_id : (job.claimedBy workerId now leaseSeconds).id = job.id := rfl
@[simp] theorem claimedBy_type : (job.claimedBy workerId now leaseSeconds).type = job.type := rfl
@[simp] theorem claimedBy_payload :
    (job.claimedBy workerId now leaseSeconds).payload = job.payload := rfl
@[simp] theorem claimedBy_status :
    (job.claimedBy workerId now leaseSeconds).status = .running := rfl
@[simp] theorem claimedBy_attempts :
    (job.claimedBy workerId now leaseSeconds).attempts = job.attempts + 1 := rfl
@[simp] theorem claimedBy_leaseExpiresAt :
    (job.claimedBy workerId now leaseSeconds).leaseExpiresAt = some (now + seconds leaseSeconds) :=
  rfl

@[simp] theorem returned_id : (job.returned error availableAt now).id = job.id := by
  unfold returned
  split <;> rfl

@[simp] theorem returned_type : (job.returned error availableAt now).type = job.type := by
  unfold returned
  split <;> rfl

@[simp] theorem returned_payload :
    (job.returned error availableAt now).payload = job.payload := by
  unfold returned
  split <;> rfl

@[simp] theorem returned_attempts :
    (job.returned error availableAt now).attempts = job.attempts := by
  unfold returned
  split <;> rfl

@[simp] theorem returned_maxAttempts :
    (job.returned error availableAt now).maxAttempts = job.maxAttempts := by
  unfold returned
  split <;> rfl

theorem returned_status : (job.returned error availableAt now).status =
    if job.attempts < job.maxAttempts then .pending else .deadLetter := by
  unfold returned
  split <;> rfl

@[simp] theorem reaped_id : (job.reaped error now).id = job.id := returned_id ..
@[simp] theorem reaped_type : (job.reaped error now).type = job.type := returned_type ..
@[simp] theorem reaped_attempts : (job.reaped error now).attempts = job.attempts :=
  returned_attempts ..

theorem reaped_status : (job.reaped error now).status =
    if job.attempts < job.maxAttempts then .pending else .deadLetter := returned_status ..

@[simp] theorem swept_id (jobType : Option JobType) :
    (job.swept jobType error now).id = job.id := by
  unfold swept
  split <;> simp

@[simp] theorem swept_type (jobType : Option JobType) :
    (job.swept jobType error now).type = job.type := by
  unfold swept
  split
  · exact returned_type ..
  · rfl

@[simp] theorem swept_payload (jobType : Option JobType) :
    (job.swept jobType error now).payload = job.payload := by
  unfold swept
  split
  · exact returned_payload ..
  · rfl

@[simp] theorem swept_attempts (jobType : Option JobType) :
    (job.swept jobType error now).attempts = job.attempts := by
  unfold swept
  split <;> simp

theorem swept_of_status_ne_running {job : JobEnvelope P} (jobType : Option JobType)
    (h : job.status ≠ .running) : job.swept jobType error now = job := by
  rw [swept, if_neg]
  exact fun due => h (running_of_due due)

@[simp] theorem finished_id : (job.finished verdict now).id = job.id := by
  cases verdict
  case reject => exact returned_id ..
  all_goals rfl

@[simp] theorem finished_type : (job.finished verdict now).type = job.type := by
  cases verdict
  case reject => exact returned_type ..
  all_goals rfl

@[simp] theorem finished_payload : (job.finished verdict now).payload = job.payload := by
  cases verdict
  case reject => exact returned_payload ..
  all_goals rfl

@[simp] theorem finished_attempts : (job.finished verdict now).attempts = job.attempts := by
  cases verdict
  case reject => exact returned_attempts ..
  all_goals rfl

end Fields

end JobEnvelope

end Taroai.Workers
