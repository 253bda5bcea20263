import Mathlib.Logic.Function.Basic
import Mathlib.Logic.Relation
import Mathlib.Data.List.Perm.Basic
import Taroai.Lib.Machine
import Taroai.Workers.RedisQueue

/-! `RedisJobQueue` at the granularity of one Redis command. Each worker process has a
program counter that names its next command and holds the copies it has read; between two
commands of one process any other process may execute, the clock may advance and a process
may crash. An operation reads the clock once, when it starts (`ack` and `fail` read it after
HGET, only to fill `completed_at`). The reply of HVALS is part of the label, as any order of
the stored jobs. -/

namespace Taroai.Workers

structure ClaimCall where
  jobType : JobType
  workerId : String
  now : Time
  leaseSeconds : Int
deriving DecidableEq, Repr

/-- A pass of the reaping loop; `claim` starts with one and goes on with `after`. -/
structure ReapCall where
  jobType : Option JobType
  now : Time
  error : String
  after : Option ClaimCall
deriving DecidableEq, Repr

inductive Pc (P : Type) where
  | idle
  | enqueueWrite (job : JobEnvelope P)
  | enqueuePush (job : JobEnvelope P)
  | reapScan (call : ReapCall)
  | reapWrite (call : ReapCall) (job : JobEnvelope P) (rest : List (JobEnvelope P))
  | reapPush (call : ReapCall) (updated : JobEnvelope P) (rest : List (JobEnvelope P))
  | claimPop (call : ClaimCall)
  | claimRead (call : ClaimCall) (jobId : String)
  | claimRotate (call : ClaimCall) (job : JobEnvelope P)
  | claimWrite (call : ClaimCall) (job : JobEnvelope P)
  | finishRead (jobId : String) (verdict : Verdict) (now : Time)
  | finishWrite (updated : JobEnvelope P) (pushes : Bool)
  | finishPush (updated : JobEnvelope P)

def Verdict.pushes : Verdict → Bool
  | .reject _ _ => true
  | .ack | .fail _ => false

namespace Pc

variable {P : Type}

/-- The local steps between two jobs of the reaping loop, and after the last one. -/
def reapNext (call : ReapCall) : List (JobEnvelope P) → Pc P
  | job :: rest => .reapWrite call job rest
  | [] =>
    match call.after with
    | none => .idle
    | some claim => .claimPop claim

/-- One command and the local steps up to the next. The write of a new job is refused
when its identifier is taken: `new_id` does not repeat an identifier. -/
def command (s : RedisStore P) : Pc P → Option (RedisStore P × Pc P)
  | .idle => none
  | .enqueueWrite job =>
    match s.jobs.get? job.id with
    | some _ => none
    | none => some (s.write job, .enqueuePush job)
  | .enqueuePush job => some (s.rpushPending job.type job.id, .idle)
  | .reapScan _ => none
  | .reapWrite call job rest =>
    let updated := job.reaped call.error call.now
    some (s.write updated, .reapPush call updated rest)
  | .reapPush call updated rest => some (s.pushReturned updated, reapNext call rest)
  | .claimPop call =>
    match s.pending call.jobType with
    | [] => some (s, .idle)
    | jobId :: rest => some (s.setPending call.jobType rest, .claimRead call jobId)
  | .claimRead call jobId =>
    match s.jobs.get? jobId with
    | none => some (s, .claimPop call)
    | some job =>
      if job.status ≠ .pending then some (s, .claimPop call)
      else if call.now < job.availableAt then some (s, .claimRotate call job)
      else some (s, .claimWrite call job)
  | .claimRotate call job => some (s.rpushPending call.jobType job.id, .idle)
  | .claimWrite call job =>
    some (s.write (job.claimedBy call.workerId call.now call.leaseSeconds), .idle)
  | .finishRead jobId verdict now =>
    match s.jobs.get? jobId with
    | none => some (s, .idle)
    | some job => some (s, .finishWrite (job.finished verdict now) verdict.pushes)
  | .finishWrite updated pushes =>
    some (s.write updated, if pushes then .finishPush updated else .idle)
  | .finishPush updated => some (s.pushReturned updated, .idle)

/-- The list entry that the process has taken or still owes: its list and the identifier. -/
def token : Pc P → Option (JobType × String)
  | .enqueuePush job => some (job.type, job.id)
  | .reapPush _ updated _ | .finishPush updated =>
    if updated.status = .pending then some (updated.type, updated.id) else none
  | .claimRead call jobId => some (call.jobType, jobId)
  | .claimRotate call job | .claimWrite call job => some (call.jobType, job.id)
  | .idle | .enqueueWrite _ | .reapScan _ | .reapWrite _ _ _ | .claimPop _ | .finishRead _ _ _
  | .finishWrite _ _ => none

theorem reapNext_token (call : ReapCall) (jobs : List (JobEnvelope P)) :
    (reapNext call jobs).token = none := by
  cases jobs with
  | nil =>
    rw [reapNext]
    split <;> rfl
  | cons job rest => rfl

end Pc

/-- A claim that returned a job: the job, the lease it was given and the attempt number. -/
structure ClaimRecord where
  jobId : String
  leaseExpiresAt : Time
  attempt : Nat
deriving DecidableEq, Repr

/-- The store, one clock, the processes, and a log of the claims that returned a job. -/
structure Cluster (P : Type) where
  store : RedisStore P
  clock : Time
  workers : Nat → Pc P
  claims : List ClaimRecord

inductive Event (P : Type) where
  | advance (elapsed : Nat)
  | enqueue (worker : Nat) (id : String) (type : JobType) (payload : P) (maxAttempts : Nat)
  | claim (worker : Nat) (jobType : JobType) (workerId : String) (leaseSeconds : Int)
  | reap (worker : Nat) (jobType : Option JobType) (error : String)
  | finish (worker : Nat) (jobId : String) (verdict : Verdict)
  | hvals (worker : Nat) (reply : List (JobEnvelope P))
  | command (worker : Nat)
  | crash (worker : Nat)

def Event.worker {P : Type} : Event P → Option Nat
  | .advance _ => none
  | .enqueue w _ _ _ _ | .claim w _ _ _ | .reap w _ _ | .finish w _ _ | .hvals w _ | .command w
  | .crash w => some w

namespace Cluster

variable {P : Type}

def start (clock : Time) : Cluster P := ⟨RedisStore.empty, clock, fun _ => .idle, []⟩

def setWorker (s : Cluster P) (worker : Nat) (pc : Pc P) : Cluster P :=
  { s with workers := Function.update s.workers worker pc }

theorem setWorker_workers (s : Cluster P) (w v : Nat) (pc : Pc P) :
    (s.setWorker w pc).workers v = if v = w then pc else s.workers v :=
  Function.update_apply ..

def begin (s : Cluster P) (worker : Nat) (pc : Pc P) : Option (Cluster P) :=
  match s.workers worker with
  | .idle => some (s.setWorker worker pc)
  | _ => none

theorem begin_eq_some {s s' : Cluster P} {w : Nat} {pc : Pc P} (begun : s.begin w pc = some s') :
    s.workers w = .idle ∧ s' = s.setWorker w pc := by
  unfold begin at begun
  split at begun
  · next here => exact ⟨here, (Option.some.inj begun).symm⟩
  · cases begun

/-- The claim that the next command of the process makes, if that command is its HSET. -/
def returned : Pc P → List ClaimRecord
  | .claimWrite call job =>
    [⟨job.id, call.now + seconds call.leaseSeconds, job.attempts + 1⟩]
  | _ => []

def enqueuePc (clock : Time) (id : String) (type : JobType) (payload : P) (maxAttempts : Nat) :
    Pc P :=
  if positive : 1 ≤ maxAttempts then
    .enqueueWrite (JobEnvelope.create id type payload clock maxAttempts positive)
  else .idle

variable [DecidableEq P]

def step (s : Cluster P) : Event P → Option (Cluster P)
  | .advance elapsed => some { s with clock := s.clock + elapsed }
  | .enqueue worker id type payload maxAttempts =>
    s.begin worker (enqueuePc s.clock id type payload maxAttempts)
  | .claim worker jobType workerId leaseSeconds =>
    s.begin worker (.reapScan ⟨some jobType, s.clock, leaseExpiredError,
      some ⟨jobType, workerId, s.clock, leaseSeconds⟩⟩)
  | .reap worker jobType error => s.begin worker (.reapScan ⟨jobType, s.clock, error, none⟩)
  | .finish worker jobId verdict => s.begin worker (.finishRead jobId verdict s.clock)
  | .hvals worker reply =>
    match s.workers worker with
    | .reapScan call =>
      if reply.Perm s.store.jobs.entries then
        some (s.setWorker worker (Pc.reapNext call (reply.filter fun job =>
          job.due call.jobType call.now)))
      else none
    | _ => none
  | .command worker =>
    match (s.workers worker).command s.store with
    | some (store, pc) =>
      some { s.setWorker worker pc with
        store := store
        claims := returned (s.workers worker) ++ s.claims }
    | none => none
  | .crash worker => some (s.setWorker worker .idle)

theorem step_cases {s s' : Cluster P} {e : Event P} (moved : step s e = some s') :
    (∃ elapsed : Nat, e = .advance elapsed ∧ s' = { s with clock := s.clock + elapsed }) ∨
    (∃ w pc, e.worker = some w ∧ s.workers w = .idle ∧ s' = s.setWorker w pc ∧
      ((∃ id type payload maxAttempts, e = .enqueue w id type payload maxAttempts ∧
          pc = enqueuePc s.clock id type payload maxAttempts) ∨
        (∃ call : ReapCall, pc = .reapScan call ∧ call.now = s.clock ∧
          ∀ claim ∈ call.after, claim.now = s.clock) ∨
        ∃ jobId verdict, e = .finish w jobId verdict ∧ pc = .finishRead jobId verdict s.clock)) ∨
    (∃ w reply call, e = .hvals w reply ∧ s.workers w = .reapScan call ∧
      reply.Perm s.store.jobs.entries ∧
      s' = s.setWorker w (Pc.reapNext call (reply.filter fun job =>
        job.due call.jobType call.now))) ∨
    (∃ w store pc, e = .command w ∧ (s.workers w).command s.store = some (store, pc) ∧
      s' = { s.setWorker w pc with
        store := store, claims := returned (s.workers w) ++ s.claims }) ∨
    ∃ w, e = .crash w ∧ s' = s.setWorker w .idle := by
  cases e with
  | advance elapsed => exact Or.inl ⟨elapsed, rfl, (Option.some.inj moved).symm⟩
  | enqueue w id type payload maxAttempts =>
    obtain ⟨idle, rfl⟩ := begin_eq_some moved
    exact Or.inr (Or.inl ⟨w, _, rfl, idle, rfl, Or.inl ⟨id, type, payload, maxAttempts, rfl, rfl⟩⟩)
  | claim w jobType workerId leaseSeconds =>
    obtain ⟨idle, rfl⟩ := begin_eq_some moved
    refine Or.inr (Or.inl ⟨w, _, rfl, idle, rfl, Or.inr (Or.inl ⟨_, rfl, rfl, ?_⟩)⟩)
    rintro claim ⟨⟩
    rfl
  | reap w jobType error =>
    obtain ⟨idle, rfl⟩ := begin_eq_some moved
    exact Or.inr (Or.inl ⟨w, _, rfl, idle, rfl, Or.inr (Or.inl ⟨_, rfl, rfl, by simp⟩)⟩)
  | finish w jobId verdict =>
    obtain ⟨idle, rfl⟩ := begin_eq_some moved
    exact Or.inr (Or.inl ⟨w, _, rfl, idle, rfl, Or.inr (Or.inr ⟨jobId, verdict, rfl, rfl⟩)⟩)
  | hvals w reply =>
    simp only [step] at moved
    split at moved
    · next call here =>
      split_ifs at moved with order
      exact Or.inr (Or.inr (Or.inl ⟨w, reply, call, rfl, here, order,
        (Option.some.inj moved).symm⟩))
    · cases moved
  | command w =>
    simp only [step] at moved
    split at moved
    · next store pc ran =>
      exact Or.inr (Or.inr (Or.inr (Or.inl ⟨w, store, pc, rfl, ran,
        (Option.some.inj moved).symm⟩)))
    · cases moved
  | crash w => exact Or.inr (Or.inr (Or.inr (Or.inr ⟨w, rfl, (Option.some.inj moved).symm⟩)))

theorem workers_of_run {s t : Cluster P} {schedule : List (Event P)} {v : Nat}
    (others : ∀ e ∈ schedule, e.worker ≠ some v) (ran : Machine.run step s schedule = some t) :
    t.workers v = s.workers v := by
  induction schedule generalizing s with
  | nil =>
    obtain rfl : s = t := Option.some.inj ran
    rfl
  | cons e rest ih =>
    obtain ⟨s', moved, ran⟩ := Machine.run_cons_eq_some.mp ran
    have later := ih (fun e' member => others e' (List.mem_cons_of_mem _ member)) ran
    have here : e.worker ≠ some v := others e List.mem_cons_self
    rw [later]
    have stays : ∀ {w : Nat} {pc : Pc P}, e.worker = some w →
        (s.setWorker w pc).workers v = s.workers v := by
      intro w pc named
      have other : v ≠ w := fun same => here (same ▸ named)
      rw [setWorker_workers, if_neg other]
    rcases step_cases moved with ⟨elapsed, rfl, rfl⟩ | ⟨w, pc, named, -, rfl, -⟩ |
      ⟨w, reply, call, rfl, -, -, rfl⟩ | ⟨w, store, pc, rfl, -, rfl⟩ | ⟨w, rfl, rfl⟩
    · rfl
    · exact stays named
    · exact stays rfl
    · exact stays rfl
    · exact stays rfl

end Cluster

section Alone

open Relation RedisStore

variable {P : Type}

namespace Pc

def Next (before after : RedisStore P × Pc P) : Prop := before.2.command before.1 = some after

theorem setPending_setPending (s : RedisStore P) (t : JobType) (ids rest : List String) :
    (s.setPending t ids).setPending t rest = s.setPending t rest := by
  have same : ∀ t', ((s.setPending t ids).setPending t rest).pending t' =
      (s.setPending t rest).pending t' := by
    intro t'
    by_cases here : t' = t <;> simp [setPending, here]
  exact congrArg (RedisStore.mk s.jobs · s.dead) (funext same)

theorem setPending_pending (s : RedisStore P) (t : JobType) :
    s.setPending t (s.pending t) = s := by
  have same : (fun t' => if t' = t then s.pending t else s.pending t') = s.pending := by
    funext t'
    split
    · next here => rw [here]
    · rfl
  rw [setPending, same]

theorem reap_alone (call : ReapCall) (snapshot : List (JobEnvelope P)) (s : RedisStore P) :
    ReflTransGen Next
      (s, reapNext call (snapshot.filter fun job => job.due call.jobType call.now))
      (snapshot.foldl (RedisJobQueue.reapJob call.jobType call.now call.error) s,
        reapNext call []) := by
  induction snapshot generalizing s with
  | nil => exact .refl
  | cons job rest ih =>
    rw [List.foldl_cons, RedisJobQueue.reapJob]
    by_cases due : job.due call.jobType call.now = true
    · rw [List.filter_cons, if_pos due, if_pos due]
      refine .head rfl (.head rfl ?_)
      exact ih _
    · rw [List.filter_cons, if_neg due, if_neg due]
      exact ih s

theorem claim_alone (call : ClaimCall) (ids : List String) (s : RedisStore P) :
    ReflTransGen Next (s.setPending call.jobType ids, .claimPop call)
      ((RedisJobQueue.claimLoop s call.jobType call.workerId call.now call.leaseSeconds ids).2,
        .idle) := by
  induction ids with
  | nil =>
    refine .single ?_
    simp only [Next, command, setPending_self]
    rfl
  | cons jobId rest ih =>
    have popped : Next (s.setPending call.jobType (jobId :: rest), .claimPop call)
        (s.setPending call.jobType rest, .claimRead call jobId) := by
      simp only [Next, command, setPending_self, setPending_setPending]
    refine .head popped ?_
    rw [RedisJobQueue.claimLoop]
    cases stored : s.jobs.get? jobId with
    | none =>
      have read : Next (s.setPending call.jobType rest, .claimRead call jobId)
          (s.setPending call.jobType rest, .claimPop call) := by
        simp only [Next, command, setPending_jobs, stored]
      exact .head read ih
    | some job =>
      have read : Next (s.setPending call.jobType rest, .claimRead call jobId)
          (s.setPending call.jobType rest,
            if job.status ≠ .pending then .claimPop call
            else if call.now < job.availableAt then .claimRotate call job
            else .claimWrite call job) := by
        simp only [Next, command, setPending_jobs, stored]
        split_ifs <;> rfl
      refine .head read ?_
      simp only
      split_ifs
      · exact ih
      · exact .single rfl
      · exact .single rfl

theorem enqueue_alone {s s' : RedisStore P} {id : String} {type : JobType} {payload : P}
    {now : Time} {maxAttempts : Nat} {job : JobEnvelope P} (fresh : s.jobs.get? id = none)
    (ran : RedisJobQueue.enqueue s id type payload now maxAttempts = .ok (job, s')) :
    ReflTransGen Next (s, Cluster.enqueuePc now id type payload maxAttempts) (s', .idle) := by
  unfold RedisJobQueue.enqueue at ran
  split at ran
  · next positive =>
    obtain ⟨-, rfl⟩ := Prod.mk.inj (Except.ok.inj ran)
    rw [Cluster.enqueuePc, dif_pos positive]
    let new := JobEnvelope.create id type payload now maxAttempts positive
    have absent : s.jobs.get? new.id = none := fresh
    have written : Next (s, .enqueueWrite new) (s.write new, .enqueuePush new) := by
      simp only [Next, command, absent]
    exact .head written (.single rfl)
  · cases ran

theorem finish_alone {s s' : RedisStore P} {id : String} {verdict : Verdict} {now : Time}
    {job : JobEnvelope P} (ran : RedisJobQueue.finish s id verdict now = .ok (job, s')) :
    ReflTransGen Next (s, .finishRead id verdict now) (s', .idle) := by
  cases stored : s.jobs.get? id with
  | none =>
    cases verdict <;>
      simp only [RedisJobQueue.finish, RedisJobQueue.ack, RedisJobQueue.fail,
        RedisJobQueue.reject, RedisJobQueue.read, stored] at ran <;> cases ran
  | some old =>
    rw [RedisJobQueue.finish_of_get? stored] at ran
    have read : Next (s, .finishRead id verdict now)
        (s, .finishWrite (old.finished verdict now) verdict.pushes) := by
      simp only [Next, command, stored]
    refine .head read ?_
    cases verdict with
    | ack | fail =>
      cases ran
      exact .single rfl
    | reject error retryDelaySeconds =>
      cases ran
      exact .head rfl (.single rfl)

end Pc

namespace Cluster

variable [DecidableEq P]

theorem run_alone {s : Cluster P} {w : Nat} {store : RedisStore P} {pc : Pc P}
    (alone : ReflTransGen Pc.Next (s.store, s.workers w) (store, pc)) :
    ∃ n t, Machine.run step s (List.replicate n (.command w)) = some t ∧
      t.store = store ∧ t.workers = Function.update s.workers w pc ∧ t.clock = s.clock := by
  generalize before : (s.store, s.workers w) = start at alone
  induction alone using ReflTransGen.head_induction_on generalizing s with
  | refl =>
    obtain ⟨rfl, rfl⟩ := Prod.mk.inj before
    exact ⟨0, s, rfl, rfl, (Function.update_eq_self w s.workers).symm, rfl⟩
  | @head _ mid here _ ih =>
    subst before
    let moved : Cluster P := { s.setWorker w mid.2 with
      store := mid.1, claims := returned (s.workers w) ++ s.claims }
    have stepped : step s (.command w) = some moved := by
      have ran : (s.workers w).command s.store = some (mid.1, mid.2) := here
      simp only [step, ran]
      rfl
    have now : moved.workers w = mid.2 := Function.update_self ..
    obtain ⟨n, t, ran, last, workers, clock⟩ := ih (s := moved) (congrArg _ now)
    refine ⟨n + 1, t, ?_, last, ?_, clock⟩
    · rw [List.replicate_succ, Machine.run_cons_eq_some]
      exact ⟨moved, stepped, ran⟩
    · rw [workers]
      exact Function.update_idem ..

theorem run_begun {s : Cluster P} (begun : Cluster P) {w : Nat} {pc : Pc P} {store : RedisStore P}
    (idle : s.workers w = .idle) (workers : begun.workers = Function.update s.workers w pc)
    (alone : ReflTransGen Pc.Next (begun.store, pc) (store, .idle)) :
    ∃ n t, Machine.run step begun (List.replicate n (.command w)) = some t ∧
      t.workers = s.workers ∧ t.store = store := by
  have here : begun.workers w = pc := by rw [workers, Function.update_self]
  rw [← here] at alone
  obtain ⟨n, t, ran, last, after, -⟩ := run_alone alone
  refine ⟨n, t, ran, ?_, last⟩
  rw [after, workers, Function.update_idem, ← idle, Function.update_eq_self]

/-- An operation that is not interleaved with others is the one of `RedisJobQueue`. -/
theorem operations_refine {s : Cluster P} {w : Nat} (idle : s.workers w = .idle) :
    (∀ reply : List (JobEnvelope P), reply.Perm s.store.jobs.entries →
      ∀ jobType workerId leaseSeconds, ∃ n t, Machine.run step s
          (.claim w jobType workerId leaseSeconds :: .hvals w reply ::
            List.replicate n (.command w)) = some t ∧ t.workers = s.workers ∧
        t.store = (RedisJobQueue.claim (fun _ => reply) s.store jobType workerId s.clock
          leaseSeconds).2) ∧
    (∀ id type payload maxAttempts job store, s.store.jobs.get? id = none →
      RedisJobQueue.enqueue s.store id type payload s.clock maxAttempts = .ok (job, store) →
      ∃ n t, Machine.run step s (.enqueue w id type payload maxAttempts ::
        List.replicate n (.command w)) = some t ∧ t.workers = s.workers ∧ t.store = store) ∧
    ∀ id verdict job store, RedisJobQueue.finish s.store id verdict s.clock = .ok (job, store) →
      ∃ n t, Machine.run step s (.finish w id verdict :: List.replicate n (.command w)) = some t ∧
        t.workers = s.workers ∧ t.store = store := by
  have begins (pc : Pc P) {e : Event P} (begun : step s e = s.begin w pc) :
      step s e = some (s.setWorker w pc) := by
    simp only [begun, begin, idle]
  refine ⟨fun reply order jobType workerId leaseSeconds => ?_, ?_, ?_⟩
  · let claim : ClaimCall := ⟨jobType, workerId, s.clock, leaseSeconds⟩
    let call : ReapCall := ⟨some jobType, s.clock, leaseExpiredError, some claim⟩
    let scanned : Cluster P := s.setWorker w (.reapScan call)
    let reaping : Cluster P := scanned.setWorker w (Pc.reapNext call (reply.filter fun job =>
      job.due call.jobType call.now))
    have first : step s (.claim w jobType workerId leaseSeconds) = some scanned := by
      simp only [step, begin, idle]
      rfl
    have scanning : scanned.workers w = .reapScan call := Function.update_self ..
    have second : step scanned (.hvals w reply) = some reaping := by
      have same : scanned.store.jobs.entries = s.store.jobs.entries := rfl
      simp only [step, scanning, same, order, if_true]
      rfl
    have reaped := Pc.reap_alone call reply s.store
    let swept := reply.foldl (RedisJobQueue.reapJob call.jobType call.now call.error) s.store
    have claimed := Pc.claim_alone claim (swept.pending jobType) swept
    rw [Pc.setPending_pending] at claimed
    have workers : reaping.workers = Function.update s.workers w (Pc.reapNext call
        (reply.filter fun job => job.due call.jobType call.now)) := Function.update_idem ..
    obtain ⟨n, t, ran, after, store⟩ := run_begun reaping idle workers (reaped.trans claimed)
    refine ⟨n, t, ?_, after, store⟩
    rw [Machine.run_cons_eq_some]
    refine ⟨scanned, first, ?_⟩
    rw [Machine.run_cons_eq_some]
    exact ⟨reaping, second, ran⟩
  · intro id type payload maxAttempts job store fresh ran
    obtain ⟨n, t, rest, after, same⟩ := run_begun (s.setWorker w _) idle rfl (Pc.enqueue_alone fresh ran)
    exact ⟨n, t, Machine.run_cons_eq_some.mpr ⟨_, begins _ rfl, rest⟩, after, same⟩
  · intro id verdict job store ran
    obtain ⟨n, t, rest, after, same⟩ := run_begun (s.setWorker w _) idle rfl (Pc.finish_alone ran)
    exact ⟨n, t, Machine.run_cons_eq_some.mpr ⟨_, begins _ rfl, rest⟩, after, same⟩

theorem enqueue_refines : ∃ n t, Machine.run step (start 0 : Cluster Unit)
    (.enqueue 0 "job" .runExecution () 3 :: List.replicate n (.command 0)) = some t ∧
      t.workers = (start 0 : Cluster Unit).workers ∧
      t.store = (RedisStore.empty.write (JobEnvelope.create "job" .runExecution () 0 3
        (by decide))).rpushPending .runExecution "job" :=
  (operations_refine rfl).2.1 "job" .runExecution () 3 _ _ rfl rfl

end Cluster

end Alone

end Taroai.Workers
