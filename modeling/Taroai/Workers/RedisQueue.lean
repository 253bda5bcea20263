import Taroai.Lib.Table
import Taroai.Workers.JobQueue

/-! `RedisJobQueue` with each operation executed without interruption: a hash of jobs and,
for each job type, a list of pending and a list of dead identifiers. The order in which
HVALS answers is Redis's own; it is the parameter `hvals`, of which only that it permutes
the stored jobs is used. The serialised envelope is the job itself. -/

namespace Taroai.Workers

structure RedisStore (P : Type) where
  jobs : Table (JobEnvelope.id (P := P))
  pending : JobType → List String
  dead : JobType → List String

namespace RedisStore

variable {P : Type}

def empty : RedisStore P := ⟨Table.empty, fun _ => [], fun _ => []⟩

def write (s : RedisStore P) (job : JobEnvelope P) : RedisStore P :=
  { s with jobs := s.jobs.put job }

def setPending (s : RedisStore P) (jobType : JobType) (ids : List String) : RedisStore P :=
  { s with pending := fun t => if t = jobType then ids else s.pending t }

def setDead (s : RedisStore P) (jobType : JobType) (ids : List String) : RedisStore P :=
  { s with dead := fun t => if t = jobType then ids else s.dead t }

def rpushPending (s : RedisStore P) (jobType : JobType) (id : String) : RedisStore P :=
  s.setPending jobType (s.pending jobType ++ [id])

def rpushDead (s : RedisStore P) (jobType : JobType) (id : String) : RedisStore P :=
  s.setDead jobType (s.dead jobType ++ [id])

@[simp] theorem write_jobs (s : RedisStore P) (job : JobEnvelope P) :
    (s.write job).jobs = s.jobs.put job := rfl
@[simp] theorem write_pending (s : RedisStore P) (job : JobEnvelope P) :
    (s.write job).pending = s.pending := rfl
@[simp] theorem write_dead (s : RedisStore P) (job : JobEnvelope P) :
    (s.write job).dead = s.dead := rfl
@[simp] theorem setPending_jobs (s : RedisStore P) (t : JobType) (ids : List String) :
    (s.setPending t ids).jobs = s.jobs := rfl
@[simp] theorem setPending_dead (s : RedisStore P) (t : JobType) (ids : List String) :
    (s.setPending t ids).dead = s.dead := rfl
@[simp] theorem setPending_self (s : RedisStore P) (t : JobType) (ids : List String) :
    (s.setPending t ids).pending t = ids := if_pos rfl
@[simp] theorem rpushPending_jobs (s : RedisStore P) (t : JobType) (id : String) :
    (s.rpushPending t id).jobs = s.jobs := rfl
@[simp] theorem rpushPending_dead (s : RedisStore P) (t : JobType) (id : String) :
    (s.rpushPending t id).dead = s.dead := rfl
@[simp] theorem rpushPending_self (s : RedisStore P) (t : JobType) (id : String) :
    (s.rpushPending t id).pending t = s.pending t ++ [id] := if_pos rfl
@[simp] theorem rpushDead_jobs (s : RedisStore P) (t : JobType) (id : String) :
    (s.rpushDead t id).jobs = s.jobs := rfl
@[simp] theorem rpushDead_pending (s : RedisStore P) (t : JobType) (id : String) :
    (s.rpushDead t id).pending = s.pending := rfl
@[simp] theorem rpushDead_self (s : RedisStore P) (t : JobType) (id : String) :
    (s.rpushDead t id).dead t = s.dead t ++ [id] := if_pos rfl

theorem mem_rpushPending {s : RedisStore P} {t t' : JobType} {id id' : String} :
    id' ∈ (s.rpushPending t id).pending t' ↔ id' ∈ s.pending t' ∨ t' = t ∧ id' = id := by
  by_cases same : t' = t
  · subst same
    simp
  · simp [rpushPending, setPending, same]

/-- The push that follows the write of a job given back by `reject` or by the reaper. -/
def pushReturned (s : RedisStore P) (job : JobEnvelope P) : RedisStore P :=
  if job.status = .pending then s.rpushPending job.type job.id else s.rpushDead job.type job.id

@[simp] theorem pushReturned_jobs (s : RedisStore P) (job : JobEnvelope P) :
    (s.pushReturned job).jobs = s.jobs := by
  unfold pushReturned
  split <;> rfl

theorem pushReturned_lists (s : RedisStore P) (job : JobEnvelope P) :
    (s.pushReturned job).pending ≠ s.pending ∨ (s.pushReturned job).dead ≠ s.dead := by
  unfold pushReturned
  split
  · refine Or.inl fun same => ?_
    have grown := congrFun same job.type
    simp at grown
  · refine Or.inr fun same => ?_
    have grown := congrFun same job.type
    simp at grown

end RedisStore

namespace RedisJobQueue

open RedisStore

variable {P : Type} (hvals : List (JobEnvelope P) → List (JobEnvelope P))

def enqueue (s : RedisStore P) (id : String) (jobType : JobType) (payload : P) (now : Time)
    (maxAttempts : Nat) : Except QueueError (JobEnvelope P × RedisStore P) :=
  if positive : 1 ≤ maxAttempts then
    let job := JobEnvelope.create id jobType payload now maxAttempts positive
    .ok (job, (s.write job).rpushPending jobType job.id)
  else .error .invalidMaxAttempts

def reapJob (jobType : Option JobType) (now : Time) (error : String) (s : RedisStore P)
    (job : JobEnvelope P) : RedisStore P :=
  if job.due jobType now then
    let updated := job.reaped error now
    (s.write updated).pushReturned updated
  else s

def reapExpiredLeases (s : RedisStore P) (jobType : Option JobType) (now : Time)
    (error : String) : List (JobEnvelope P) × RedisStore P :=
  let snapshot := hvals s.jobs.entries
  ((snapshot.filter fun job => job.due jobType now).map fun job => job.reaped error now,
    snapshot.foldl (reapJob jobType now error) s)

/-- The `while True` loop: each round pops the head of the pending list, given here as the
argument, and the round that returns may append the identifier again. -/
def claimLoop (s : RedisStore P) (jobType : JobType) (workerId : String) (now : Time)
    (leaseSeconds : Int) : List String → Option (JobEnvelope P) × RedisStore P
  | [] => (none, s.setPending jobType [])
  | jobId :: rest =>
    match s.jobs.get? jobId with
    | none => claimLoop s jobType workerId now leaseSeconds rest
    | some job =>
      if job.status ≠ .pending then claimLoop s jobType workerId now leaseSeconds rest
      else if now < job.availableAt then
        (none, (s.setPending jobType rest).rpushPending jobType job.id)
      else
        let claimed := job.claimedBy workerId now leaseSeconds
        (some claimed, (s.setPending jobType rest).write claimed)

def claim (s : RedisStore P) (jobType : JobType) (workerId : String) (now : Time)
    (leaseSeconds : Int) : Option (JobEnvelope P) × RedisStore P :=
  let reaped := (reapExpiredLeases hvals s (some jobType) now leaseExpiredError).2
  claimLoop reaped jobType workerId now leaseSeconds (reaped.pending jobType)

def read (s : RedisStore P) (jobId : String) : Except QueueError (JobEnvelope P) :=
  match s.jobs.get? jobId with
  | some job => .ok job
  | none => .error (jobNotFound jobId)

def ack (s : RedisStore P) (jobId : String) (now : Time) :
    Except QueueError (JobEnvelope P × RedisStore P) := do
  let job ← read s jobId
  let updated := job.acked now
  return (updated, s.write updated)

def fail (s : RedisStore P) (jobId error : String) (now : Time) :
    Except QueueError (JobEnvelope P × RedisStore P) := do
  let job ← read s jobId
  let updated := job.failed error now
  return (updated, s.write updated)

/-- Unlike the two other reports, `reject` also pushes the identifier to a list. -/
def reject (s : RedisStore P) (jobId error : String) (now : Time) (retryDelaySeconds : Int) :
    Except QueueError (JobEnvelope P × RedisStore P) := do
  let job ← read s jobId
  let updated := job.rejected error retryDelaySeconds now
  return (updated, (s.write updated).pushReturned updated)

def finish (s : RedisStore P) (jobId : String) (verdict : Verdict) (now : Time) :
    Except QueueError (JobEnvelope P × RedisStore P) :=
  match verdict with
  | .ack => ack s jobId now
  | .fail error => fail s jobId error now
  | .reject error retryDelaySeconds => reject s jobId error now retryDelaySeconds

/-- LRANGE of the dead list of one type, or of every type in the order of the enumeration. -/
def listDeadLetters (s : RedisStore P) (jobType : Option JobType) :
    Except QueueError (List (JobEnvelope P)) :=
  match jobType with
  | some t => (s.dead t).mapM (read s)
  | none => (JobType.members.flatMap s.dead).mapM (read s)

def queue : JobQueue P (RedisStore P) where
  get? s jobId := s.jobs.get? jobId
  pendingIds s := s.pending
  deadIds s := s.dead
  enqueue := enqueue
  claim := claim hvals
  finish := finish
  reapExpiredLeases := reapExpiredLeases hvals

private theorem get?_foldl_reapJob (jobType : Option JobType) (now : Time) (error : String)
    (snapshot : List (JobEnvelope P)) (s : RedisStore P)
    (distinct : (snapshot.map JobEnvelope.id).Nodup)
    (stored : ∀ job ∈ snapshot, s.jobs.get? job.id = some job) (k : String) :
    (snapshot.foldl (reapJob jobType now error) s).jobs.get? k =
      if k ∈ snapshot.map JobEnvelope.id then
        (s.jobs.get? k).map fun job => job.swept jobType error now
      else s.jobs.get? k := by
  induction snapshot generalizing s with
  | nil => simp
  | cons job rest ih =>
    rw [List.map_cons, List.nodup_cons] at distinct
    have body : ∀ k, (reapJob jobType now error s job).jobs.get? k =
        if k = job.id then some (job.swept jobType error now) else s.jobs.get? k := by
      intro k
      have here := stored job List.mem_cons_self
      unfold reapJob JobEnvelope.swept
      split
      · simp [Table.get?_put]
      · split
        · next same => rw [same, here]
        · rfl
    have later : ∀ other ∈ rest,
        (reapJob jobType now error s job).jobs.get? other.id = some other := by
      intro other member
      have differs : other.id ≠ job.id := fun same =>
        distinct.1 (same ▸ List.mem_map_of_mem member)
      rw [body, if_neg differs]
      exact stored other (List.mem_cons_of_mem _ member)
    rw [List.foldl_cons, ih _ distinct.2 later, body, List.map_cons]
    by_cases same : k = job.id
    · subst same
      simp [distinct.1, stored job List.mem_cons_self]
    · simp [same]

theorem get?_reap (order : ∀ jobs, (hvals jobs).Perm jobs) (s : RedisStore P)
    (jobType : Option JobType) (now : Time) (error k : String) :
    (reapExpiredLeases hvals s jobType now error).2.jobs.get? k =
      (s.jobs.get? k).map fun job => job.swept jobType error now := by
  have same := order s.jobs.entries
  have distinct : ((hvals s.jobs.entries).map JobEnvelope.id).Nodup :=
    (same.map _).nodup_iff.mpr s.jobs.nodup
  have stored : ∀ job ∈ hvals s.jobs.entries, s.jobs.get? job.id = some job :=
    fun job member => Table.get?_of_mem (same.mem_iff.mp member)
  rw [reapExpiredLeases, get?_foldl_reapJob _ _ _ _ _ distinct stored]
  split
  · rfl
  · next absent =>
    cases found : s.jobs.get? k with
    | none => rfl
    | some job =>
      refine absurd ?_ absent
      rw [← Table.key_of_get? found]
      exact List.mem_map_of_mem (same.mem_iff.mpr (Table.mem_of_get? found))

theorem claimLoop_none {s s' : RedisStore P} {jobType : JobType} {workerId : String}
    {now : Time} {leaseSeconds : Int} {ids : List String}
    (ran : claimLoop s jobType workerId now leaseSeconds ids = (none, s')) :
    s'.jobs = s.jobs := by
  induction ids with
  | nil =>
    obtain ⟨-, rfl⟩ := Prod.mk.inj ran
    rfl
  | cons jobId rest ih =>
    rw [claimLoop] at ran
    split at ran
    · exact ih ran
    · split_ifs at ran
      · exact ih ran
      · obtain ⟨-, rfl⟩ := Prod.mk.inj ran
        rfl
      · cases ran

theorem claimLoop_some {s s' : RedisStore P} {jobType : JobType} {workerId : String}
    {now : Time} {leaseSeconds : Int} {ids : List String} {claimed : JobEnvelope P}
    (ran : claimLoop s jobType workerId now leaseSeconds ids = (some claimed, s')) :
    ∃ job, s.jobs.get? job.id = some job ∧ job.status = .pending ∧
      claimed = job.claimedBy workerId now leaseSeconds ∧ s'.jobs = s.jobs.put claimed := by
  induction ids with
  | nil => cases ran
  | cons jobId rest ih =>
    rw [claimLoop] at ran
    split at ran
    · exact ih ran
    · next job found =>
      split_ifs at ran with taken early
      · exact ih ran
      · cases ran
      · obtain ⟨same, rfl⟩ := Prod.mk.inj ran
        obtain rfl := Option.some.inj same
        have key : job.id = jobId := Table.key_of_get? found
        exact ⟨job, key ▸ found, not_not.mp taken, rfl, rfl⟩

private theorem read_of_get? {s : RedisStore P} {id : String} {job : JobEnvelope P}
    (present : s.jobs.get? id = some job) : read s id = .ok job := by
  simp only [read, present]

theorem finish_of_get? {s : RedisStore P} {id : String} {job : JobEnvelope P}
    (present : s.jobs.get? id = some job) (verdict : Verdict) (now : Time) :
    finish s id verdict now = .ok (job.finished verdict now,
      match verdict with
      | .reject .. => (s.write (job.finished verdict now)).pushReturned (job.finished verdict now)
      | _ => s.write (job.finished verdict now)) := by
  cases verdict with
  | ack =>
    simp only [finish, ack, read_of_get? present]
    rfl
  | fail error =>
    simp only [finish, fail, read_of_get? present]
    rfl
  | reject error retryDelaySeconds =>
    simp only [finish, reject, read_of_get? present]
    rfl

theorem lawful (order : ∀ jobs, (hvals jobs).Perm jobs) : (queue hvals).Lawful where
  enqueue_ok := by
    intro s id type payload now maxAttempts job s' _ ran
    simp only [queue, enqueue] at ran
    split at ran
    · next positive =>
      obtain ⟨rfl, rfl⟩ := Prod.mk.inj (Except.ok.inj ran)
      exact ⟨⟨rfl, rfl⟩, fun k => Table.get?_put _ _ k⟩
    · cases ran
  reap_get? s jobType now error k := get?_reap hvals order s jobType now error k
  claim_none := by
    intro s jobType workerId now leaseSeconds s' ran k
    simp only [queue, claim] at ran ⊢
    rw [claimLoop_none ran, get?_reap hvals order]
  claim_some := by
    intro s jobType workerId now leaseSeconds claimed s' ran
    simp only [queue, claim] at ran ⊢
    obtain ⟨job, stored, pending, rfl, after⟩ := claimLoop_some ran
    rw [get?_reap hvals order] at stored
    refine ⟨job, stored, pending, rfl, fun k => ?_⟩
    rw [after, Table.get?_put, JobEnvelope.claimedBy_id, get?_reap hvals order]
  finish_none := by
    intro s id absent verdict now
    simp only [queue] at absent ⊢
    cases verdict <;> simp only [finish, ack, fail, reject, read, absent] <;> rfl
  finish_some := by
    intro s id job present verdict now
    refine ⟨_, finish_of_get? present verdict now, fun k => ?_⟩
    have key : job.id = id := Table.key_of_get? present
    cases verdict <;>
      simp only [queue, RedisStore.pushReturned_jobs, RedisStore.write_jobs, Table.get?_put,
        JobEnvelope.finished_id, key]

theorem reporting (order : ∀ jobs, (hvals jobs).Perm jobs) : (queue hvals).Reporting where
  lawful := lawful hvals order
  accepts := by
    intro s id type payload now maxAttempts positive
    simp only [queue, enqueue, dif_pos positive]
    exact ⟨_, _, rfl, rfl, rfl⟩
  reaps := by
    intro s id job jobType now error stored due
    refine ⟨Table.key_of_get? stored, List.mem_map_of_mem ?_⟩
    have member := (order s.jobs.entries).mem_iff.mpr (Table.mem_of_get? stored)
    exact List.mem_filter.mpr ⟨member, due⟩

end RedisJobQueue

end Taroai.Workers
