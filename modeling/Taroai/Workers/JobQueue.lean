import Taroai.Lib.Machine
import Taroai.Workers.Job

/-! The queue contract of `workers/queue.py` (class `JobQueue`), the laws both backends
satisfy, and the machine of any number of workers that share one queue. `ack`, `fail` and
`reject` of the source take only a job identifier, so the machine keeps what each worker was
handed: a worker may report on such a handle at any later time, in any order with the
claims, the reaping and the reports of every other worker. -/

namespace Taroai.Workers

structure JobQueue (P σ : Type) where
  get? : σ → String → Option (JobEnvelope P)
  pendingIds : σ → JobType → List String
  deadIds : σ → JobType → List String
  enqueue : σ → String → JobType → P → Time → Nat → Except QueueError (JobEnvelope P × σ)
  claim : σ → JobType → String → Time → Int → Option (JobEnvelope P) × σ
  finish : σ → String → Verdict → Time → Except QueueError (JobEnvelope P × σ)
  reapExpiredLeases : σ → Option JobType → Time → String → List (JobEnvelope P) × σ

/-- The default `error` argument of `reap_expired_leases`, which `claim` uses. -/
def leaseExpiredError : String := "worker lease expired"

/-- `default_factory` fields of a job created by `enqueue`. -/
def JobEnvelope.create {P : Type} (id : String) (type : JobType) (payload : P) (now : Time)
    (maxAttempts : Nat) (positive : 1 ≤ maxAttempts) : JobEnvelope P where
  id := id
  type := type
  payload := payload
  createdAt := now
  availableAt := now
  maxAttempts := maxAttempts
  maxAttempts_pos := positive

theorem three_attempts : 1 ≤ 3 := by decide

namespace JobQueue

variable {P σ : Type}

/-- What every operation does to every job; the two lists are left to the backend. -/
structure Lawful (Q : JobQueue P σ) : Prop where
  enqueue_ok : ∀ {s id type payload now maxAttempts job s'}, Q.get? s id = none →
    Q.enqueue s id type payload now maxAttempts = .ok (job, s') →
      (job.status = .pending ∧ job.attempts = 0) ∧
      ∀ k, Q.get? s' k = if k = id then some job else Q.get? s k
  reap_get? : ∀ s jobType now error k,
    Q.get? (Q.reapExpiredLeases s jobType now error).2 k =
      (Q.get? s k).map fun job => job.swept jobType error now
  claim_none : ∀ {s jobType workerId now leaseSeconds s'},
    Q.claim s jobType workerId now leaseSeconds = (none, s') →
      ∀ k, Q.get? s' k =
        (Q.get? s k).map fun job => job.swept (some jobType) leaseExpiredError now
  claim_some : ∀ {s jobType workerId now leaseSeconds claimed s'},
    Q.claim s jobType workerId now leaseSeconds = (some claimed, s') →
      ∃ job, (Q.get? s job.id).map (fun j => j.swept (some jobType) leaseExpiredError now) =
          some job ∧
        job.status = .pending ∧
        claimed = job.claimedBy workerId now leaseSeconds ∧
        ∀ k, Q.get? s' k = if k = job.id then some claimed else
          (Q.get? s k).map fun j => j.swept (some jobType) leaseExpiredError now
  finish_none : ∀ {s id}, Q.get? s id = none → ∀ verdict now,
    Q.finish s id verdict now = .error (jobNotFound id)
  finish_some : ∀ {s id job}, Q.get? s id = some job → ∀ verdict now,
    ∃ s', Q.finish s id verdict now = .ok (job.finished verdict now, s') ∧
      ∀ k, Q.get? s' k = if k = id then some (job.finished verdict now) else Q.get? s k

/-- What a caller gets back, apart from the stored jobs: a valid job is always accepted, and the
reaper returns every job that it moved. -/
structure Reporting (Q : JobQueue P σ) : Prop where
  lawful : Q.Lawful
  accepts : ∀ s id type payload now maxAttempts, 1 ≤ maxAttempts →
    ∃ job s', Q.enqueue s id type payload now maxAttempts = .ok (job, s') ∧
      job.type = type ∧ job.payload = payload
  reaps : ∀ {s id job jobType now error}, Q.get? s id = some job → job.due jobType now = true →
    job.id = id ∧ job.reaped error now ∈ (Q.reapExpiredLeases s jobType now error).1

end JobQueue

structure Handle where
  jobId : String
  workerId : String
  attempt : Nat
deriving DecidableEq, Repr

structure Fleet (σ : Type) where
  queue : σ
  held : List Handle

inductive Move (P : Type) where
  | enqueue (id : String) (type : JobType) (payload : P) (now : Time) (maxAttempts : Nat)
  | claim (jobType : JobType) (workerId : String) (now : Time) (leaseSeconds : Int)
  | reap (jobType : Option JobType) (now : Time) (error : String)
  | finish (handle : Handle) (verdict : Verdict) (now : Time)

def Move.now {P : Type} : Move P → Time
  | .enqueue _ _ _ now _ | .claim _ _ now _ | .reap _ now _ | .finish _ _ now => now

namespace Fleet

variable {P σ : Type} (Q : JobQueue P σ)

/-- One call of one worker. A new job has a fresh identifier; a report consumes its handle. -/
def step (s : Fleet σ) : Move P → Option (Fleet σ)
  | .enqueue id type payload now maxAttempts =>
    match Q.get? s.queue id with
    | some _ => none
    | none =>
      match Q.enqueue s.queue id type payload now maxAttempts with
      | .ok (_, queue) => some { s with queue := queue }
      | .error _ => some s
  | .claim jobType workerId now leaseSeconds =>
    match Q.claim s.queue jobType workerId now leaseSeconds with
    | (none, queue) => some { s with queue := queue }
    | (some job, queue) => some ⟨queue, ⟨job.id, workerId, job.attempts⟩ :: s.held⟩
  | .reap jobType now error =>
    some { s with queue := (Q.reapExpiredLeases s.queue jobType now error).2 }
  | .finish handle verdict now =>
    if handle ∈ s.held then
      match Q.finish s.queue handle.jobId verdict now with
      | .ok (_, queue) => some ⟨queue, s.held.erase handle⟩
      | .error _ => some { s with held := s.held.erase handle }
    else none

/-- The worker of the handle has the lease: the job still runs under the claim it was given. -/
def Holds (s : Fleet σ) (handle : Handle) : Prop :=
  ∃ job ∈ Q.get? s.queue handle.jobId, job.status = .running ∧
    job.workerId = some handle.workerId ∧ job.attempts = handle.attempt

instance (s : Fleet σ) (handle : Handle) : Decidable (s.Holds Q handle) :=
  inferInstanceAs (Decidable (∃ job ∈ Q.get? s.queue handle.jobId, job.status = .running ∧
    job.workerId = some handle.workerId ∧ job.attempts = handle.attempt))

end Fleet

end Taroai.Workers
