import Taroai.Workers.MemoryQueue
import Taroai.Workers.RedisQueue

/-! Fencing of the job queue. A handle is stale once its claim no longer has the lease.
The law asks that a report on a stale handle leaves the job and both lists alone; that
final statuses stay and that only the holder or an expired lease moves a running job
follow from it. `ack`, `fail` and `reject` check nothing but the identifier, so the law
holds of a run exactly when each stale report repeats what is already stored. -/

namespace Taroai.Workers

variable {P σ : Type}

def JobEnvelope.outcome (job : JobEnvelope P) : JobStatus × Option String × Nat :=
  (job.status, job.workerId, job.attempts)

def JobEnvelope.repeats (job : JobEnvelope P) : Verdict → Prop
  | .ack => job.status = .succeeded
  | .fail _ => job.status = .failed
  | .reject _ _ =>
    if job.attempts < job.maxAttempts then job.status = .pending ∧ job.workerId = none
    else job.status = .deadLetter

/-- In the Redis backend a rejection also pushes the identifier. -/
def JobEnvelope.repeatsUnpushed (job : JobEnvelope P) : Verdict → Prop
  | .reject _ _ => False
  | verdict => job.repeats verdict

theorem JobEnvelope.finished_outcome {job : JobEnvelope P} {verdict : Verdict} (now : Time) :
    (job.finished verdict now).outcome = job.outcome ↔ job.repeats verdict := by
  cases verdict with
  | ack => simp [finished, acked, outcome, repeats, eq_comm]
  | fail error => simp [finished, failed, outcome, repeats, eq_comm]
  | reject error retryDelaySeconds =>
    by_cases budget : job.attempts < job.maxAttempts
    · simp [finished, rejected, returned, requeued, outcome, repeats, budget, eq_comm]
    · simp [finished, rejected, returned, deadLettered, outcome, repeats, budget, eq_comm]

namespace Fleet

variable (Q : JobQueue P σ)

structure Untouched (s s' : Fleet σ) (jobId : String) : Prop where
  job : (Q.get? s'.queue jobId).map JobEnvelope.outcome =
    (Q.get? s.queue jobId).map JobEnvelope.outcome
  pending : Q.pendingIds s'.queue = Q.pendingIds s.queue
  dead : Q.deadIds s'.queue = Q.deadIds s.queue

structure Fenced (s : Fleet σ) (m : Move P) (s' : Fleet σ) : Prop where
  stale : ∀ handle verdict now, m = .finish handle verdict now → ¬ s.Holds Q handle →
    Untouched Q s s' handle.jobId
  absorbing : ∀ id job, Q.get? s.queue id = some job → job.status.final = true →
    (Q.get? s'.queue id).map JobEnvelope.outcome = some job.outcome
  holderDecides : ∀ id job, Q.get? s.queue id = some job → job.status = .running →
    (Q.get? s'.queue id).map JobEnvelope.outcome = some job.outcome ∨
    job.leaseExpired m.now = true ∨
    ∃ handle verdict now, m = .finish handle verdict now ∧ handle.jobId = id ∧ s.Holds Q handle

/-- A report on a stale handle meets `quiet`, a condition on the stored job. -/
def StaleReports (quiet : JobEnvelope P → Verdict → Prop) (s : Fleet σ) (m : Move P) : Prop :=
  ∀ handle verdict now job, m = .finish handle verdict now → ¬ s.Holds Q handle →
    Q.get? s.queue handle.jobId = some job → quiet job verdict

variable {Q}

private theorem swept_cases (job : JobEnvelope P) (jobType : Option JobType) (error : String)
    (now : Time) : job.swept jobType error now = job ∨ job.leaseExpired now = true := by
  unfold JobEnvelope.swept
  split
  · next due => exact Or.inr (JobEnvelope.due_iff.mp due).2
  · exact Or.inl rfl

theorem step_job (lawful : Q.Lawful) {s s' : Fleet σ} {m : Move P} {k : String}
    {job : JobEnvelope P} (moved : step Q s m = some s') (stored : Q.get? s.queue k = some job) :
    ∃ job', Q.get? s'.queue k = some job' ∧
      (job' = job ∨ job.leaseExpired m.now = true ∨ job.status = .pending ∨
        ∃ handle verdict now, m = .finish handle verdict now ∧ handle.jobId = k ∧
          job' = job.finished verdict now) := by
  cases m with
  | enqueue id type payload now maxAttempts =>
    simp only [step] at moved
    split at moved
    · cases moved
    · next fresh =>
      have other : k ≠ id := fun same => by simp [← same, stored] at fresh
      split at moved
      · next created queue ran =>
        cases moved
        refine ⟨job, ?_, Or.inl rfl⟩
        rw [(lawful.enqueue_ok fresh ran).2 k, if_neg other, stored]
      · cases moved
        exact ⟨job, stored, Or.inl rfl⟩
  | claim jobType workerId now leaseSeconds =>
    have sweep := swept_cases job (some jobType) leaseExpiredError now
    simp only [step] at moved
    split at moved
    · next queue ran =>
      cases moved
      refine ⟨_, by rw [lawful.claim_none ran k, stored]; rfl, ?_⟩
      exact sweep.imp_right Or.inl
    · next claimed queue ran =>
      cases moved
      obtain ⟨taken, before, pending, -, after⟩ := lawful.claim_some ran
      rw [after k]
      by_cases same : k = taken.id
      · rw [← same, stored] at before
        have swept : job.swept (some jobType) leaseExpiredError now = taken :=
          Option.some.inj before
        refine ⟨claimed, if_pos same, ?_⟩
        rcases sweep with unchanged | expired
        · exact Or.inr (Or.inr (Or.inl (by rw [← unchanged, swept, pending])))
        · exact Or.inr (Or.inl expired)
      · refine ⟨_, by rw [if_neg same, stored]; rfl, ?_⟩
        exact sweep.imp_right Or.inl
  | reap jobType now error =>
    cases moved
    refine ⟨_, by rw [lawful.reap_get?, stored]; rfl, ?_⟩
    exact (swept_cases job jobType error now).imp_right Or.inl
  | finish handle verdict now =>
    simp only [step] at moved
    split_ifs at moved
    cases reported : Q.get? s.queue handle.jobId with
    | none =>
      rw [lawful.finish_none reported] at moved
      cases moved
      exact ⟨job, stored, Or.inl rfl⟩
    | some target =>
      obtain ⟨queue, ran, after⟩ := lawful.finish_some reported verdict now
      rw [ran] at moved
      cases moved
      rw [after k]
      by_cases same : k = handle.jobId
      · rw [← same, stored] at reported
        obtain rfl : job = target := Option.some.inj reported
        exact ⟨_, if_pos same, Or.inr (Or.inr (Or.inr ⟨handle, verdict, now, rfl, same.symm, rfl⟩))⟩
      · exact ⟨job, by rw [if_neg same, stored], Or.inl rfl⟩

theorem step_finish (lawful : Q.Lawful) {s s' : Fleet σ} {handle : Handle} {verdict : Verdict}
    {now : Time} (moved : step Q s (.finish handle verdict now) = some s') :
    (Q.get? s.queue handle.jobId = none ∧ s'.queue = s.queue) ∨
    ∃ job, Q.get? s.queue handle.jobId = some job ∧
      Q.finish s.queue handle.jobId verdict now = .ok (job.finished verdict now, s'.queue) := by
  simp only [step] at moved
  split_ifs at moved
  cases reported : Q.get? s.queue handle.jobId with
  | none =>
    rw [lawful.finish_none reported] at moved
    cases moved
    exact Or.inl ⟨rfl, rfl⟩
  | some job =>
    obtain ⟨queue, ran, -⟩ := lawful.finish_some reported verdict now
    rw [ran] at moved
    cases moved
    exact Or.inr ⟨job, rfl, ran⟩

theorem Fenced.of_stale (lawful : Q.Lawful) {s s' : Fleet σ} {m : Move P}
    (moved : step Q s m = some s')
    (stale : ∀ handle verdict now, m = .finish handle verdict now → ¬ s.Holds Q handle →
      Untouched Q s s' handle.jobId) : Fenced Q s m s' where
  stale := stale
  absorbing := by
    intro id job stored final
    obtain ⟨job', after, rfl | expired | pending | ⟨handle, verdict, now, rfl, rfl, -⟩⟩ :=
      step_job lawful moved stored
    · rw [after, Option.map_some]
    · rw [(JobEnvelope.leaseExpired_iff.mp expired).1] at final
      cases final
    · rw [pending] at final
      cases final
    · have lost : ¬ s.Holds Q handle := by
        rintro ⟨held, present, running, -⟩
        obtain rfl : job = held := Option.some.inj (stored.symm.trans present)
        rw [running] at final
        cases final
      rw [(stale handle verdict now rfl lost).job, stored, Option.map_some]
  holderDecides := by
    intro id job stored running
    obtain ⟨job', after, rfl | expired | pending | ⟨handle, verdict, now, rfl, rfl, -⟩⟩ :=
      step_job lawful moved stored
    · exact Or.inl (by rw [after, Option.map_some])
    · exact Or.inr (Or.inl expired)
    · rw [pending] at running
      cases running
    · by_cases holds : s.Holds Q handle
      · exact Or.inr (Or.inr ⟨handle, verdict, now, rfl, rfl, holds⟩)
      · refine Or.inl ?_
        rw [(stale handle verdict now rfl holds).job, stored, Option.map_some]

theorem fenced_iff (lawful : Q.Lawful) {quiet : JobEnvelope P → Verdict → Prop}
    (settles : ∀ {s s' : Fleet σ} {id job verdict now}, Q.get? s.queue id = some job →
      Q.finish s.queue id verdict now = .ok (job.finished verdict now, s'.queue) →
      (Untouched Q s s' id ↔ quiet job verdict))
    {s s' : Fleet σ} {m : Move P} (moved : step Q s m = some s') :
    Fenced Q s m s' ↔ StaleReports Q quiet s m := by
  constructor
  · rintro fenced handle verdict now job rfl lost stored
    rcases step_finish lawful moved with ⟨absent, -⟩ | ⟨job', stored', ran⟩
    · simp [stored] at absent
    · obtain rfl : job = job' := Option.some.inj (stored.symm.trans stored')
      exact (settles stored ran).mp (fenced.stale handle verdict now rfl lost)
  · intro reports
    refine Fenced.of_stale lawful moved ?_
    rintro handle verdict now rfl lost
    rcases step_finish lawful moved with ⟨-, same⟩ | ⟨job, stored, ran⟩
    · exact ⟨by rw [same], by rw [same], by rw [same]⟩
    · exact (settles stored ran).mpr (reports handle verdict now job rfl lost stored)

private theorem untouched_memory {s s' : Fleet (InMemoryJobQueue P)} {id : String}
    {job : JobEnvelope P} {verdict : Verdict} {now : Time} (stored : s.queue.get? id = some job)
    (ran : InMemoryJobQueue.finish s.queue id verdict now =
      .ok (job.finished verdict now, s'.queue)) :
    Untouched (InMemoryJobQueue.queue P) s s' id ↔ job.repeats verdict := by
  rw [InMemoryJobQueue.finish_of_get? stored] at ran
  have after : s'.queue = s.queue.put (job.finished verdict now) :=
    (Prod.mk.inj (Except.ok.inj ran)).2.symm
  have key : (job.finished verdict now).id = id := by
    rw [JobEnvelope.finished_id]
    exact Table.key_of_get? stored
  have view : (s'.queue.get? id).map JobEnvelope.outcome =
      some (job.finished verdict now).outcome := by
    rw [after, Table.get?_put, if_pos key.symm, Option.map_some]
  constructor
  · intro same
    have unchanged := view.symm.trans (same.job.trans (congrArg _ stored))
    exact (JobEnvelope.finished_outcome now).mp (Option.some.inj unchanged)
  · intro repeated
    have outcome := (JobEnvelope.finished_outcome now).mpr repeated
    have status : (job.finished verdict now).status = job.status := congrArg Prod.fst outcome
    have present : s.queue.get? (job.finished verdict now).id = some job := by rw [key, stored]
    refine ⟨?_, ?_, ?_⟩
    · rw [show (InMemoryJobQueue.queue P).get? = Table.get? from rfl, view, stored, outcome,
        Option.map_some]
    · funext jobType
      change InMemoryJobQueue.pendingIds s'.queue jobType = _
      rw [InMemoryJobQueue.pendingIds, after]
      exact Table.keys_filter_put present (by rw [status, JobEnvelope.finished_type])
    · funext jobType
      change (InMemoryJobQueue.listDeadLetters s'.queue (some jobType)).map _ = _
      rw [InMemoryJobQueue.listDeadLetters, after]
      exact Table.keys_filter_put present (by rw [status, JobEnvelope.finished_type])

private theorem untouched_redis {hvals : List (JobEnvelope P) → List (JobEnvelope P)}
    {s s' : Fleet (RedisStore P)} {id : String}
    {job : JobEnvelope P} {verdict : Verdict} {now : Time}
    (stored : s.queue.jobs.get? id = some job)
    (ran : RedisJobQueue.finish s.queue id verdict now =
      .ok (job.finished verdict now, s'.queue)) :
    Untouched (RedisJobQueue.queue hvals) s s' id ↔ job.repeatsUnpushed verdict := by
  rw [RedisJobQueue.finish_of_get? stored] at ran
  have after := (Prod.mk.inj (Except.ok.inj ran)).2.symm
  have key : (job.finished verdict now).id = id := by
    rw [JobEnvelope.finished_id]
    exact Table.key_of_get? stored
  have jobs : s'.queue.jobs = s.queue.jobs.put (job.finished verdict now) := by
    rw [after]
    cases verdict <;> simp
  have view : (s'.queue.jobs.get? id).map JobEnvelope.outcome =
      some (job.finished verdict now).outcome := by
    rw [jobs, Table.get?_put, if_pos key.symm, Option.map_some]
  have settled : Untouched (RedisJobQueue.queue hvals) s s' id → job.repeats verdict := by
    intro same
    have unchanged := view.symm.trans (same.job.trans (congrArg _ stored))
    exact (JobEnvelope.finished_outcome now).mp (Option.some.inj unchanged)
  have unchanged : job.repeats verdict →
      (s'.queue.jobs.get? id).map JobEnvelope.outcome =
        (s.queue.jobs.get? id).map JobEnvelope.outcome := by
    intro repeated
    rw [view, stored, (JobEnvelope.finished_outcome now).mpr repeated, Option.map_some]
  cases verdict with
  | ack =>
    have written : s'.queue = s.queue.write _ := after
    refine ⟨settled, fun repeated => ⟨unchanged repeated, ?_, ?_⟩⟩
    · exact (congrArg RedisStore.pending written).trans (RedisStore.write_pending _ _)
    · exact (congrArg RedisStore.dead written).trans (RedisStore.write_dead _ _)
  | fail error =>
    have written : s'.queue = s.queue.write _ := after
    refine ⟨settled, fun repeated => ⟨unchanged repeated, ?_, ?_⟩⟩
    · exact (congrArg RedisStore.pending written).trans (RedisStore.write_pending _ _)
    · exact (congrArg RedisStore.dead written).trans (RedisStore.write_dead _ _)
  | reject error retryDelaySeconds =>
    refine ⟨fun same => ?_, fun never => never.elim⟩
    let updated := job.rejected error retryDelaySeconds now
    rcases (s.queue.write updated).pushReturned_lists updated with grown | grown
    · exact grown ((congrArg RedisStore.pending after).symm.trans same.pending)
    · exact grown ((congrArg RedisStore.dead after).symm.trans same.dead)

/-- A run of either backend is fenced exactly when its stale reports repeat what is stored. -/
theorem fenced_run_iff (hvals : List (JobEnvelope P) → List (JobEnvelope P))
    (order : ∀ jobs, (hvals jobs).Perm jobs) (schedule : List (Move P))
    (memory : Fleet (InMemoryJobQueue P)) (redis : Fleet (RedisStore P)) :
    (Machine.Along (step (InMemoryJobQueue.queue P)) (Fenced (InMemoryJobQueue.queue P))
        memory schedule ↔
      Machine.Conforms (step (InMemoryJobQueue.queue P))
        (StaleReports (InMemoryJobQueue.queue P) JobEnvelope.repeats) memory schedule) ∧
    (Machine.Along (step (RedisJobQueue.queue hvals)) (Fenced (RedisJobQueue.queue hvals))
        redis schedule ↔
      Machine.Conforms (step (RedisJobQueue.queue hvals))
        (StaleReports (RedisJobQueue.queue hvals) JobEnvelope.repeatsUnpushed) redis schedule) := by
  constructor
  · refine Machine.along_congr fun s m s' moved => ?_
    exact fenced_iff (InMemoryJobQueue.lawful P) untouched_memory moved
  · refine Machine.along_congr fun s m s' moved => ?_
    exact fenced_iff (RedisJobQueue.lawful hvals order) untouched_redis moved

/-- The second worker holds the job when the acknowledgement of the first one arrives. -/
def reclaimed : List (Move Unit) :=
  [.enqueue "job_1" .runExecution () 0 3,
    .claim .runExecution "worker_1" 0 10,
    .claim .runExecution "worker_2" (seconds 10) 10]

def lateAck : Move Unit := .finish ⟨"job_1", "worker_1", 1⟩ .ack (seconds 11)

theorem fenced_run_iff_reclaimed :
    (Machine.Along (step (InMemoryJobQueue.queue Unit)) (Fenced (InMemoryJobQueue.queue Unit))
        ⟨Table.empty, []⟩ reclaimed ↔
      Machine.Conforms (step (InMemoryJobQueue.queue Unit))
        (StaleReports (InMemoryJobQueue.queue Unit) JobEnvelope.repeats)
        ⟨Table.empty, []⟩ reclaimed) ∧
    (Machine.Along (step (RedisJobQueue.queue id)) (Fenced (RedisJobQueue.queue id))
        ⟨RedisStore.empty, []⟩ reclaimed ↔
      Machine.Conforms (step (RedisJobQueue.queue id))
        (StaleReports (RedisJobQueue.queue id) JobEnvelope.repeatsUnpushed)
        ⟨RedisStore.empty, []⟩ reclaimed) :=
  fenced_run_iff id (fun jobs => List.Perm.refl jobs) reclaimed ⟨Table.empty, []⟩
    ⟨RedisStore.empty, []⟩

theorem lateAck_not_fenced :
    ¬ Machine.Along (step (InMemoryJobQueue.queue Unit)) (Fenced (InMemoryJobQueue.queue Unit))
        ⟨Table.empty, []⟩ (reclaimed ++ [lateAck]) ∧
    ¬ Machine.Along (step (RedisJobQueue.queue id)) (Fenced (RedisJobQueue.queue id))
        ⟨RedisStore.empty, []⟩ (reclaimed ++ [lateAck]) := by
  constructor
  · intro fenced
    have last := fenced.at_prefix reclaimed rfl rfl
    have same := (last.stale _ _ _ rfl (by decide)).job
    exact absurd same (by decide)
  · intro fenced
    have last := fenced.at_prefix reclaimed rfl rfl
    have same := (last.stale _ _ _ rfl (by decide)).job
    exact absurd same (by decide)

end Fleet

end Taroai.Workers
