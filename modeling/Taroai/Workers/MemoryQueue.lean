import Taroai.Lib.Table
import Taroai.Workers.JobQueue

/-! `InMemoryJobQueue`: one list of jobs in insertion order. The pending and dead-letter
lists are views of that list. -/

namespace Taroai.Workers

abbrev InMemoryJobQueue (P : Type) := Table (JobEnvelope.id (P := P))

namespace InMemoryJobQueue

variable {P : Type}

/-- The identifier is the fresh `new_id("job")` of the envelope. -/
def enqueue (q : InMemoryJobQueue P) (id : String) (jobType : JobType) (payload : P) (now : Time)
    (maxAttempts : Nat) : Except QueueError (JobEnvelope P × InMemoryJobQueue P) :=
  if positive : 1 ≤ maxAttempts then
    let job := JobEnvelope.create id jobType payload now maxAttempts positive
    .ok (job, q.put job)
  else .error .invalidMaxAttempts

/-- The enumerated loop writes `jobs[index]`, so it rewrites every job in place. -/
def reapExpiredLeases (q : InMemoryJobQueue P) (jobType : Option JobType) (now : Time)
    (error : String) : List (JobEnvelope P) × InMemoryJobQueue P :=
  ((q.entries.filter fun job => job.due jobType now).map fun job => job.reaped error now,
    q.map (fun job => job.swept jobType error now) fun job => job.swept_id error now jobType)

def claim (q : InMemoryJobQueue P) (jobType : JobType) (workerId : String) (now : Time)
    (leaseSeconds : Int) : Option (JobEnvelope P) × InMemoryJobQueue P :=
  let reaped := (reapExpiredLeases q (some jobType) now leaseExpiredError).2
  match reaped.entries.find? fun job => job.claimable jobType now with
  | none => (none, reaped)
  | some job =>
    let claimed := job.claimedBy workerId now leaseSeconds
    (some claimed, reaped.put claimed)

def get (q : InMemoryJobQueue P) (jobId : String) : Except QueueError (JobEnvelope P) :=
  match q.get? jobId with
  | some job => .ok job
  | none => .error (jobNotFound jobId)

/-- `ack`, `fail` and `reject` read the job by identifier and replace it. -/
def finish (q : InMemoryJobQueue P) (jobId : String) (verdict : Verdict) (now : Time) :
    Except QueueError (JobEnvelope P × InMemoryJobQueue P) := do
  let job ← get q jobId
  let updated := job.finished verdict now
  return (updated, q.put updated)

def ack (q : InMemoryJobQueue P) (jobId : String) (now : Time) := finish q jobId .ack now

def fail (q : InMemoryJobQueue P) (jobId error : String) (now : Time) :=
  finish q jobId (.fail error) now

def reject (q : InMemoryJobQueue P) (jobId error : String) (now : Time)
    (retryDelaySeconds : Int) := finish q jobId (.reject error retryDelaySeconds) now

def listDeadLetters (q : InMemoryJobQueue P) (jobType : Option JobType) : List (JobEnvelope P) :=
  q.entries.filter fun job =>
    decide (job.status = .deadLetter) && jobType.all fun t => decide (job.type = t)

def pendingIds (q : InMemoryJobQueue P) (jobType : JobType) : List String :=
  (q.entries.filter fun job =>
    decide (job.status = .pending) && decide (job.type = jobType)).map JobEnvelope.id

def queue (P : Type) : JobQueue P (InMemoryJobQueue P) where
  get? := Table.get?
  pendingIds := pendingIds
  deadIds q jobType := (listDeadLetters q (some jobType)).map JobEnvelope.id
  enqueue := enqueue
  claim := claim
  finish := finish
  reapExpiredLeases := reapExpiredLeases

theorem get?_reap (q : InMemoryJobQueue P) (jobType : Option JobType) (now : Time)
    (error k : String) :
    (reapExpiredLeases q jobType now error).2.get? k =
      (q.get? k).map fun job => job.swept jobType error now :=
  Table.get?_map q _ (fun job => job.swept_id error now jobType) k

theorem finish_of_get? {q : InMemoryJobQueue P} {id : String} {job : JobEnvelope P}
    (present : q.get? id = some job) (verdict : Verdict) (now : Time) :
    finish q id verdict now =
      .ok (job.finished verdict now, q.put (job.finished verdict now)) := by
  simp only [finish, get, present]
  rfl

theorem lawful (P : Type) : (queue P).Lawful where
  enqueue_ok := by
    intro s id type payload now maxAttempts job s' _ ran
    simp only [queue, enqueue] at ran
    split at ran
    · next positive =>
      obtain ⟨rfl, rfl⟩ := Prod.mk.inj (Except.ok.inj ran)
      exact ⟨⟨rfl, rfl⟩, fun k => Table.get?_put _ _ k⟩
    · cases ran
  reap_get? s jobType now error k := get?_reap s jobType now error k
  claim_none := by
    intro s jobType workerId now leaseSeconds s' ran k
    simp only [queue, claim] at ran ⊢
    split at ran
    · obtain ⟨-, rfl⟩ := Prod.mk.inj ran
      exact get?_reap ..
    · cases ran
  claim_some := by
    intro s jobType workerId now leaseSeconds claimed s' ran
    simp only [queue, claim] at ran ⊢
    split at ran
    · cases ran
    · next job found =>
      obtain ⟨same, rfl⟩ := Prod.mk.inj ran
      obtain rfl := Option.some.inj same
      have stored := Table.get?_of_mem (List.mem_of_find?_eq_some found)
      rw [get?_reap] at stored
      have taken : job.claimable jobType now = true := by simpa using List.find?_some found
      refine ⟨job, stored, JobEnvelope.pending_of_claimable taken, rfl, fun k => ?_⟩
      rw [Table.get?_put, JobEnvelope.claimedBy_id, get?_reap]
  finish_none := by
    intro s id absent verdict now
    simp only [queue] at absent ⊢
    simp only [finish, get, absent]
    rfl
  finish_some := by
    intro s id job present verdict now
    refine ⟨_, finish_of_get? present verdict now, fun k => ?_⟩
    have key : job.id = id := Table.key_of_get? present
    simp only [queue, Table.get?_put, JobEnvelope.finished_id, key]

theorem reporting (P : Type) : (queue P).Reporting where
  lawful := lawful P
  accepts := by
    intro s id type payload now maxAttempts positive
    simp only [queue, enqueue, dif_pos positive]
    exact ⟨_, _, rfl, rfl, rfl⟩
  reaps := by
    intro s id job jobType now error stored due
    refine ⟨Table.key_of_get? stored, List.mem_map_of_mem ?_⟩
    exact List.mem_filter.mpr ⟨Table.mem_of_get? stored, due⟩

end InMemoryJobQueue

end Taroai.Workers
