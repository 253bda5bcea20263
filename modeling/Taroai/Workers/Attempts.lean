import Taroai.Workers.MemoryQueue
import Taroai.Workers.RedisQueue

/-! The attempt budget. `claim` raises `attempts`, while `reject` and the two reapers compare
it with `max_attempts`. One inversion of a call per job (`step_change`) carries both the
bound on the stored counter and its agreement with the number of handouts. Nothing here needs
the reports to come from a holder of the lease. -/

namespace Taroai.Workers

variable {P σ : Type}

namespace JobEnvelope

structure Budgeted (job : JobEnvelope P) : Prop where
  within : job.attempts ≤ job.maxAttempts
  spare : job.status = .pending → job.attempts < job.maxAttempts

theorem returned_budgeted {job : JobEnvelope P} (budgeted : job.Budgeted) (error : String)
    (availableAt now : Time) : (job.returned error availableAt now).Budgeted where
  within := by
    rw [returned_attempts, returned_maxAttempts]
    exact budgeted.within
  spare := by
    rw [returned_status, returned_attempts, returned_maxAttempts]
    split
    · next left => exact fun _ => left
    · intro impossible
      cases impossible

theorem swept_budgeted {job : JobEnvelope P} (budgeted : job.Budgeted) (jobType : Option JobType)
    (error : String) (now : Time) : (job.swept jobType error now).Budgeted := by
  unfold swept
  split
  · exact returned_budgeted budgeted error now now
  · exact budgeted

theorem claimedBy_budgeted {job : JobEnvelope P} (budgeted : job.Budgeted)
    (pending : job.status = .pending) (workerId : String) (now : Time) (leaseSeconds : Int) :
    (job.claimedBy workerId now leaseSeconds).Budgeted where
  within := budgeted.spare pending
  spare := by
    intro impossible
    cases impossible

theorem finished_budgeted {job : JobEnvelope P} (budgeted : job.Budgeted) (verdict : Verdict)
    (now : Time) : (job.finished verdict now).Budgeted := by
  cases verdict with
  | ack => exact ⟨budgeted.within, fun impossible => by cases impossible⟩
  | fail error => exact ⟨budgeted.within, fun impossible => by cases impossible⟩
  | reject error retryDelaySeconds => exact returned_budgeted budgeted error _ now

structure GivenBack (job after : JobEnvelope P) : Prop where
  retried : after.status = .pending ↔ job.attempts < job.maxAttempts
  exhausted : after.status = .deadLetter ↔ job.attempts = job.maxAttempts

theorem givenBack_returned {job : JobEnvelope P} (budgeted : job.Budgeted) (error : String)
    (availableAt now : Time) : job.GivenBack (job.returned error availableAt now) := by
  have within := budgeted.within
  constructor
  · rw [returned_status]
    split <;> simp [*]
  · rw [returned_status]
    split
    · next left =>
      have differs : job.attempts ≠ job.maxAttempts := Nat.ne_of_lt left
      simp [differs]
    · next exhausted =>
      have reached : job.attempts = job.maxAttempts := by omega
      simp [reached]

end JobEnvelope

namespace Fleet

variable (Q : JobQueue P σ)

def handsOut (jobId : String) (s : Fleet σ) : Move P → Bool
  | .claim jobType workerId now leaseSeconds =>
    (Q.claim s.queue jobType workerId now leaseSeconds).1.any fun job => decide (job.id = jobId)
  | .enqueue _ _ _ _ _ | .reap _ _ _ | .finish _ _ _ => false

def handouts (jobId : String) (s : Fleet σ) (schedule : List (Move P)) : Nat :=
  Machine.tally (step Q) (fun s m => (s.handsOut Q jobId m).toNat) s schedule

/-- What one call does to the record of one job, and whether it hands the job out. -/
inductive Change (before : Option (JobEnvelope P)) : Option (JobEnvelope P) → Bool → Prop
  | kept : Change before before false
  | created (job : JobEnvelope P) (fresh : before = none) (pending : job.status = .pending)
      (unused : job.attempts = 0) : Change before (some job) false
  | swept (jobType : Option JobType) (error : String) (now : Time) :
      Change before (before.map fun job => job.swept jobType error now) false
  | handed (jobType : Option JobType) (job : JobEnvelope P) (workerId : String) (now : Time)
      (leaseSeconds : Int)
      (stored : (before.map fun job => job.swept jobType leaseExpiredError now) = some job)
      (pending : job.status = .pending) :
      Change before (some (job.claimedBy workerId now leaseSeconds)) true
  | finished (job : JobEnvelope P) (verdict : Verdict) (now : Time) (stored : before = some job) :
      Change before (some (job.finished verdict now)) false

variable {Q}

theorem step_change (lawful : Q.Lawful) {s s' : Fleet σ} {m : Move P}
    (moved : step Q s m = some s') (k : String) :
    Change (Q.get? s.queue k) (Q.get? s'.queue k) (s.handsOut Q k m) := by
  cases m with
  | enqueue id type payload now maxAttempts =>
    simp only [step] at moved
    split at moved
    · cases moved
    · next fresh =>
      split at moved
      · next job queue ran =>
        cases moved
        obtain ⟨⟨pending, unused⟩, after⟩ := lawful.enqueue_ok fresh ran
        simp only [after k, handsOut]
        split
        · next same => exact .created job (same ▸ fresh) pending unused
        · exact .kept
      · cases moved
        exact .kept
  | claim jobType workerId now leaseSeconds =>
    simp only [step] at moved
    simp only [handsOut]
    split at moved
    · next queue ran =>
      cases moved
      simp only [lawful.claim_none ran k, ran]
      exact .swept ..
    · next claimed queue ran =>
      cases moved
      obtain ⟨job, before, pending, rfl, after⟩ := lawful.claim_some ran
      simp only [after k, ran, Option.any_some, JobEnvelope.claimedBy_id]
      by_cases same : k = job.id
      · subst same
        simp only [if_true, decide_true]
        exact .handed (some jobType) job workerId now leaseSeconds before pending
      · simp only [if_neg same, Ne.symm same, decide_false]
        exact .swept ..
  | reap jobType now error =>
    cases moved
    simp only [lawful.reap_get?, handsOut]
    exact .swept ..
  | finish handle verdict now =>
    simp only [step] at moved
    simp only [handsOut]
    split_ifs at moved
    cases reported : Q.get? s.queue handle.jobId with
    | none =>
      rw [lawful.finish_none reported] at moved
      cases moved
      exact .kept
    | some job =>
      obtain ⟨queue, ran, after⟩ := lawful.finish_some reported verdict now
      rw [ran] at moved
      cases moved
      simp only [after k]
      split
      · next same => exact .finished job verdict now (same ▸ reported)
      · exact .kept

def Within (s : Option (JobEnvelope P)) : Prop := ∀ job ∈ s, job.Budgeted

theorem Change.within {before after : Option (JobEnvelope P)} {handed : Bool}
    (change : Change before after handed) (budgeted : Within before) : Within after := by
  cases change with
  | kept => exact budgeted
  | created job fresh pending unused =>
    rintro _ ⟨⟩
    have positive := job.maxAttempts_pos
    exact ⟨by omega, fun _ => by omega⟩
  | swept jobType error now =>
    intro after member
    obtain ⟨job, stored, rfl⟩ := Option.map_eq_some_iff.mp member
    exact JobEnvelope.swept_budgeted (budgeted job stored) jobType error now
  | handed jobType job workerId now leaseSeconds stored pending =>
    rintro _ ⟨⟩
    obtain ⟨old, present, rfl⟩ := Option.map_eq_some_iff.mp stored
    have here := JobEnvelope.swept_budgeted (budgeted old present) jobType leaseExpiredError now
    exact JobEnvelope.claimedBy_budgeted here pending workerId now leaseSeconds
  | finished job verdict now stored =>
    rintro _ ⟨⟩
    exact JobEnvelope.finished_budgeted (budgeted job stored) verdict now

def attemptsOf (stored : Option (JobEnvelope P)) : Nat := stored.elim 0 JobEnvelope.attempts

theorem Change.attempts {before after : Option (JobEnvelope P)} {handed : Bool}
    (change : Change before after handed) :
    attemptsOf after = attemptsOf before + handed.toNat := by
  cases change with
  | kept => rfl
  | created job fresh pending unused => simp [attemptsOf, fresh, unused]
  | swept jobType error now => cases before <;> simp [attemptsOf]
  | handed jobType job workerId now leaseSeconds stored pending =>
    obtain ⟨old, present, rfl⟩ := Option.map_eq_some_iff.mp stored
    simp [attemptsOf, present]
  | finished job verdict now stored => simp [attemptsOf, stored]

theorem handouts_run (lawful : Q.Lawful) {s t : Fleet σ} {schedule : List (Move P)}
    (ran : Machine.run (step Q) s schedule = some t) (k : String) :
    attemptsOf (Q.get? t.queue k) = attemptsOf (Q.get? s.queue k) + handouts Q k s schedule :=
  Machine.level_run (fun s => attemptsOf (Q.get? s.queue k))
    (fun _ _ _ moved => (step_change lawful moved k).attempts) ran

variable (Q)

/-- What becomes of a job that a call gives back. A claim sweeps first, so it may hand the
job out at once. -/
structure Settled (s : Fleet σ) (m : Move P) (s' : Fleet σ) : Prop where
  rejected : ∀ handle error retryDelaySeconds now job,
    m = .finish handle (.reject error retryDelaySeconds) now →
    Q.get? s.queue handle.jobId = some job →
    ∃ after, Q.get? s'.queue handle.jobId = some after ∧ job.GivenBack after
  reaped : ∀ jobType now error id job, m = .reap jobType now error →
    Q.get? s.queue id = some job → job.due jobType now = true →
    ∃ after, Q.get? s'.queue id = some after ∧ job.GivenBack after
  sweptFirst : ∀ jobType workerId now leaseSeconds id job,
    m = .claim jobType workerId now leaseSeconds →
    Q.get? s.queue id = some job → job.due (some jobType) now = true →
    ∃ after, Q.get? s'.queue id = some after ∧
      (job.GivenBack after ∨ s.handsOut Q id m = true ∧ job.attempts < job.maxAttempts)

variable {Q}

theorem settled_step (lawful : Q.Lawful) {s s' : Fleet σ} {m : Move P}
    (moved : step Q s m = some s') (budgeted : ∀ k, Within (Q.get? s.queue k)) :
    s.Settled Q m s' where
  rejected := by
    rintro handle error retryDelaySeconds now job rfl stored
    simp only [step] at moved
    split_ifs at moved
    obtain ⟨queue, ran, after⟩ :=
      lawful.finish_some stored (.reject error retryDelaySeconds) now
    rw [ran] at moved
    cases moved
    refine ⟨_, (after handle.jobId).trans (if_pos rfl), ?_⟩
    exact JobEnvelope.givenBack_returned (budgeted handle.jobId job stored) error _ now
  reaped := by
    rintro jobType now error id job rfl stored due
    cases moved
    refine ⟨job.swept jobType error now, by rw [lawful.reap_get?, stored]; rfl, ?_⟩
    rw [JobEnvelope.swept, if_pos due]
    exact JobEnvelope.givenBack_returned (budgeted id job stored) error now now
  sweptFirst := by
    rintro jobType workerId now leaseSeconds id job rfl stored due
    have back : job.GivenBack (job.swept (some jobType) leaseExpiredError now) := by
      rw [JobEnvelope.swept, if_pos due]
      exact JobEnvelope.givenBack_returned (budgeted id job stored) leaseExpiredError now now
    simp only [step] at moved
    split at moved
    · next queue ran =>
      cases moved
      exact ⟨_, by rw [lawful.claim_none ran, stored]; rfl, Or.inl back⟩
    · next claimed queue ran =>
      cases moved
      obtain ⟨taken, before, pending, rfl, after⟩ := lawful.claim_some ran
      rw [after id]
      by_cases same : id = taken.id
      · subst same
        rw [stored] at before
        have handed : job.swept (some jobType) leaseExpiredError now = taken :=
          Option.some.inj before
        refine ⟨_, if_pos rfl, Or.inr ⟨?_, ?_⟩⟩
        · simp [handsOut, ran]
        · exact back.retried.mp (handed ▸ pending)
      · exact ⟨_, by rw [if_neg same, stored]; rfl, Or.inl back⟩

variable (Q)

structure KeepsBudget (empty : σ) : Prop where
  jobs : ∀ schedule t id job, Machine.run (step Q) ⟨empty, []⟩ schedule = some t →
    Q.get? t.queue id = some job →
    job.Budgeted ∧ handouts Q id ⟨empty, []⟩ schedule ≤ job.maxAttempts
  givenBack : ∀ schedule, Machine.Along (step Q) (Settled Q) ⟨empty, []⟩ schedule

variable {Q}

theorem keepsBudget (lawful : Q.Lawful) {empty : σ} (none : ∀ k, Q.get? empty k = none) :
    KeepsBudget Q empty where
  jobs := by
    intro schedule t id job ran stored
    have budgeted : ∀ k, Within (Q.get? t.queue k) := by
      refine Machine.invariant_of_step (I := fun s => ∀ k, Within (Q.get? s.queue k))
        (fun s m s' inv moved k => (step_change lawful moved k).within (inv k)) ?_ ran
      intro k job member
      simp [none k] at member
    have counted := handouts_run lawful ran id
    have kept := budgeted id job stored
    simp only [attemptsOf, none id, stored, Option.elim, Nat.zero_add] at counted
    exact ⟨kept, counted ▸ kept.within⟩
  givenBack schedule := by
    refine Machine.Along.of_invariant (I := fun s => ∀ k, Within (Q.get? s.queue k))
      (fun s m s' inv _ moved => ⟨fun k => (step_change lawful moved k).within (inv k),
        settled_step lawful moved inv⟩) ?_ (Machine.along_true _ _ schedule)
    intro k job member
    simp [none k] at member

/-- The attempt budget of both backends. -/
theorem attempt_budget (hvals : List (JobEnvelope P) → List (JobEnvelope P))
    (order : ∀ jobs, (hvals jobs).Perm jobs) :
    KeepsBudget (InMemoryJobQueue.queue P) Table.empty ∧
      KeepsBudget (RedisJobQueue.queue hvals) RedisStore.empty :=
  ⟨keepsBudget (InMemoryJobQueue.lawful P) fun _ => rfl,
    keepsBudget (RedisJobQueue.lawful hvals order) fun _ => rfl⟩

theorem attempt_budget_insertion_order :
    KeepsBudget (InMemoryJobQueue.queue String) Table.empty ∧
      KeepsBudget (RedisJobQueue.queue fun jobs : List (JobEnvelope String) => jobs)
        RedisStore.empty :=
  attempt_budget (fun jobs => jobs) fun jobs => List.Perm.refl jobs

end Fleet

end Taroai.Workers
