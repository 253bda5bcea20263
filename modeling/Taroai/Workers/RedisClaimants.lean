import Mathlib
import Taroai.Workers.RedisCommands

/-! Claims and reaping at command granularity. A token is a list entry, or the identifier
that a process has popped or still owes; a pending job has at most one and no other job has
any, so at most one process can turn a job to running. This rests on one condition: when the
reaping loop writes a job, the stored job is still the copy of its HVALS reply. -/

namespace Taroai.Workers

variable {P : Type}

def RedisStore.Waiting (s : RedisStore P) (t : JobType) (id : String) : Prop :=
  ∃ job, s.jobs.get? id = some job ∧ job.type = t ∧ job.status = .pending

def Event.reports : Event P → Bool
  | .finish _ _ _ => true
  | _ => false

def Event.executes : Event P → Option Nat
  | .command w => some w
  | _ => none

namespace Pc

def reaping : Pc P → Option (JobEnvelope P)
  | .reapWrite _ job _ => some job
  | _ => none

def ReapsExpired (clock : Time) (call : ReapCall) (jobs : List (JobEnvelope P)) : Prop :=
  call.now ≤ clock ∧ ∀ job ∈ jobs, job.due call.jobType call.now = true

def Copies (s : RedisStore P) (clock : Time) : Pc P → Prop
  | .idle | .enqueuePush _ | .claimPop _ | .claimRead _ _ => True
  | .enqueueWrite job => job.status = .pending ∧ job.attempts = 0
  | .reapScan call => ReapsExpired clock call ([] : List (JobEnvelope P))
  | .reapWrite call job rest => ReapsExpired clock call (job :: rest)
  | .reapPush call _ rest => ReapsExpired clock call rest
  | .claimRotate call job | .claimWrite call job =>
    job.type = call.jobType ∧ s.jobs.get? job.id = some job
  | .finishRead _ _ _ | .finishWrite _ _ | .finishPush _ => False

theorem reapNext_copies {s : RedisStore P} {clock : Time} {call : ReapCall}
    {jobs : List (JobEnvelope P)} (expired : ReapsExpired clock call jobs) :
    (reapNext call jobs).Copies s clock := by
  cases jobs with
  | nil =>
    rw [reapNext]
    split <;> trivial
  | cons job rest => exact expired

theorem Copies.advance {s : RedisStore P} {clock later : Time} {pc : Pc P} (after : clock ≤ later)
    (copies : pc.Copies s clock) : pc.Copies s later := by
  cases pc
  case reapScan | reapWrite | reapPush => exact copies.imp_left fun past => Int.le_trans past after
  all_goals exact copies

theorem Copies.of_jobs {s s' : RedisStore P} {clock : Time} {pc : Pc P} (same : s'.jobs = s.jobs)
    (copies : pc.Copies s clock) : pc.Copies s' clock := by
  cases pc
  case claimRotate | claimWrite =>
    simp only [Copies, same] at copies ⊢
    exact copies
  all_goals exact copies

theorem Copies.write {s : RedisStore P} {clock : Time} {pc : Pc P} {written : JobEnvelope P}
    (other : ∀ t, pc.token ≠ some (t, written.id)) (copies : pc.Copies s clock) :
    pc.Copies (s.write written) clock := by
  cases pc
  case claimRotate call job | claimWrite call job =>
    refine copies.imp_right fun stored => ?_
    have differs : job.id ≠ written.id := fun same => other call.jobType (by rw [token, same])
    rw [RedisStore.write_jobs, Table.get?_put_ne _ _ differs, stored]
  all_goals exact copies

end Pc

namespace Cluster

structure Tokens (store : RedisStore P) (workers : Nat → Pc P) : Prop where
  listed : ∀ t, ∀ id ∈ store.pending t, store.Waiting t id
  nodup : ∀ t, (store.pending t).Nodup
  carried : ∀ w t id, (workers w).token = some (t, id) → store.Waiting t id
  apart : ∀ w t id, (workers w).token = some (t, id) → id ∉ store.pending t
  single : ∀ v w t id, (workers v).token = some (t, id) → (workers w).token = some (t, id) → v = w

structure Leases (jobs : Table (JobEnvelope.id (P := P))) (claims : List ClaimRecord)
    (clock : Time) : Prop where
  current : ∀ c ∈ claims, ∃ job, jobs.get? c.jobId = some job ∧ c.attempt ≤ job.attempts ∧
    (c.leaseExpiresAt ≤ clock ∨ job.status = .running ∧ job.attempts = c.attempt ∧
      job.leaseExpiresAt = some c.leaseExpiresAt)
  ordered : claims.Pairwise fun c earlier => c.jobId = earlier.jobId → earlier.attempt < c.attempt
  counted : ∀ id job, jobs.get? id = some job →
    job.attempts = claims.countP fun c => c.jobId = id

structure Exclusive (s : Cluster P) : Prop where
  tokens : Tokens s.store s.workers
  copies : ∀ w, (s.workers w).Copies s.store s.clock
  leases : Leases s.store.jobs s.claims s.clock

def ReapsUnchanged (s : Cluster P) (e : Event P) : Prop :=
  ∀ w ∈ e.executes, ∀ job ∈ (s.workers w).reaping, s.store.jobs.get? job.id = some job

instance [DecidableEq P] (s : Cluster P) (e : Event P) : Decidable (s.ReapsUnchanged e) :=
  inferInstanceAs (Decidable (∀ w ∈ e.executes, ∀ job ∈ (s.workers w).reaping,
    s.store.jobs.get? job.id = some job))

/-- No two claims hold unexpired leases on one job, and every claim is counted once. -/
structure SingleClaimant (s : Cluster P) : Prop where
  exclusive : s.claims.Pairwise fun a b => a.jobId = b.jobId →
    a.leaseExpiresAt ≤ s.clock ∨ b.leaseExpiresAt ≤ s.clock
  counted : ∀ id job, s.store.jobs.get? id = some job →
    job.attempts = s.claims.countP fun c => c.jobId = id

theorem Leases.exclusive {jobs : Table (JobEnvelope.id (P := P))} {claims : List ClaimRecord}
    {clock : Time} (inv : Leases jobs claims clock) :
    claims.Pairwise fun a b => a.jobId = b.jobId →
      a.leaseExpiresAt ≤ clock ∨ b.leaseExpiresAt ≤ clock := by
  refine inv.ordered.imp_of_mem fun {a b} first second later same => ?_
  obtain ⟨job, stored, -, expired | ⟨-, attempts, -⟩⟩ := inv.current a first
  · exact Or.inl expired
  · obtain ⟨job', stored', -, expired' | ⟨-, attempts', -⟩⟩ := inv.current b second
    · exact Or.inr expired'
    · rw [← same, stored] at stored'
      obtain rfl := Option.some.inj stored'
      have := later same
      omega

theorem Leases.advance {jobs : Table (JobEnvelope.id (P := P))} {claims : List ClaimRecord}
    {clock later : Time} (after : clock ≤ later) (inv : Leases jobs claims clock) :
    Leases jobs claims later where
  current := by
    intro c member
    obtain ⟨job, stored, bound, lease⟩ := inv.current c member
    exact ⟨job, stored, bound, lease.imp_left fun expired => Int.le_trans expired after⟩
  ordered := inv.ordered
  counted := inv.counted

theorem Leases.create {jobs : Table (JobEnvelope.id (P := P))} {claims : List ClaimRecord}
    {clock : Time} {job : JobEnvelope P} (inv : Leases jobs claims clock)
    (absent : jobs.get? job.id = none) (fresh : job.attempts = 0) :
    Leases (jobs.put job) claims clock := by
  have other : ∀ c ∈ claims, c.jobId ≠ job.id := by
    intro c member same
    obtain ⟨_, stored, -⟩ := inv.current c member
    simp [same, absent] at stored
  refine ⟨fun c member => ?_, inv.ordered, fun id stored found => ?_⟩
  · rw [Table.get?_put_ne _ _ (other c member)]
    exact inv.current c member
  · rw [Table.get?_put] at found
    split at found
    · next same =>
      obtain rfl := Option.some.inj found
      have none : claims.countP (fun c => c.jobId = id) = 0 := by
        rw [List.countP_eq_zero]
        intro c member
        simpa [same] using other c member
      rw [fresh, none]
    · exact inv.counted id stored found

theorem Leases.reap {jobs : Table (JobEnvelope.id (P := P))} {claims : List ClaimRecord}
    {clock : Time} {job : JobEnvelope P} {error : String} {now : Time}
    (inv : Leases jobs claims clock) (stored : jobs.get? job.id = some job)
    (expired : job.leaseExpired now = true) (past : now ≤ clock) :
    Leases (jobs.put (job.reaped error now)) claims clock := by
  obtain ⟨-, expiry, lease, before⟩ := JobEnvelope.leaseExpired_iff.mp expired
  refine ⟨fun c member => ?_, inv.ordered, fun id found present => ?_⟩
  · obtain ⟨job', stored', bound, current⟩ := inv.current c member
    by_cases same : c.jobId = job.id
    · rw [same, stored] at stored'
      obtain rfl := Option.some.inj stored'
      refine ⟨_, by rw [same, ← job.reaped_id error now, Table.get?_put_self], by simpa, ?_⟩
      rcases current with ended | ⟨-, -, same⟩
      · exact Or.inl ended
      · obtain rfl := Option.some.inj (lease.symm.trans same)
        exact Or.inl (Int.le_trans before past)
    · exact ⟨job', by rw [Table.get?_put_ne _ _ (by simpa), stored'], bound, current⟩
  · rw [Table.get?_put, JobEnvelope.reaped_id] at present
    split at present
    · next same =>
      obtain rfl := Option.some.inj present
      rw [JobEnvelope.reaped_attempts, inv.counted job.id job stored, same]
    · exact inv.counted id found present

theorem Leases.claim {jobs : Table (JobEnvelope.id (P := P))} {claims : List ClaimRecord}
    {clock : Time} {job : JobEnvelope P} {call : ClaimCall}
    (inv : Leases jobs claims clock) (stored : jobs.get? job.id = some job)
    (pending : job.status = .pending) :
    Leases (jobs.put (job.claimedBy call.workerId call.now call.leaseSeconds))
      (⟨job.id, call.now + seconds call.leaseSeconds, job.attempts + 1⟩ :: claims) clock := by
  have own : ∀ c ∈ claims, c.jobId = job.id →
      c.attempt ≤ job.attempts ∧ c.leaseExpiresAt ≤ clock := by
    intro c member same
    obtain ⟨job', stored', bound, current⟩ := inv.current c member
    rw [same, stored] at stored'
    obtain rfl := Option.some.inj stored'
    refine ⟨bound, current.resolve_right fun running => ?_⟩
    rw [pending] at running
    cases running.1
  have after : (jobs.put (job.claimedBy call.workerId call.now call.leaseSeconds)).get? job.id =
      some (job.claimedBy call.workerId call.now call.leaseSeconds) := Table.get?_put_self ..
  refine ⟨fun c member => ?_, ?_, fun id found present => ?_⟩
  · rcases List.mem_cons.mp member with rfl | earlier
    · exact ⟨_, after, Nat.le_refl _, Or.inr ⟨rfl, rfl, rfl⟩⟩
    · by_cases same : c.jobId = job.id
      · obtain ⟨bound, ended⟩ := own c earlier same
        exact ⟨_, by rw [same, after], by simp; omega, Or.inl ended⟩
      · rw [Table.get?_put_ne _ _ (by simpa)]
        exact inv.current c earlier
  · refine List.pairwise_cons.mpr ⟨fun c member same => ?_, inv.ordered⟩
    have := (own c member same.symm).1
    change c.attempt < job.attempts + 1
    omega
  · rw [Table.get?_put, JobEnvelope.claimedBy_id] at present
    split at present
    · next same =>
      obtain rfl := Option.some.inj present
      rw [List.countP_cons, ← inv.counted id job (same ▸ stored)]
      simp [same]
    · next other =>
      rw [List.countP_cons, ← inv.counted id found present]
      simp [Ne.symm other]

namespace Tokens

variable {store store' : RedisStore P} {workers : Nat → Pc P} {w : Nat} {pc : Pc P}

private theorem token_update {v : Nat} {t : JobType} {id : String}
    (held : (Function.update workers w pc v).token = some (t, id)) :
    v = w ∧ pc.token = some (t, id) ∨ v ≠ w ∧ (workers v).token = some (t, id) := by
  rw [Function.update_apply] at held
  split at held
  · next same => exact Or.inl ⟨same, held⟩
  · next other => exact Or.inr ⟨other, held⟩

private theorem same_list {t t' : JobType} {id : String} (one : store.Waiting t id)
    (two : store.Waiting t' id) : t = t' := by
  obtain ⟨job, stored, rfl, -⟩ := one
  obtain ⟨job', stored', rfl, -⟩ := two
  rw [Option.some.inj (stored.symm.trans stored')]

theorem keep (inv : Tokens store workers) (jobs : store'.jobs = store.jobs)
    (pending : store'.pending = store.pending)
    (kept : ∀ t id, pc.token = some (t, id) → (workers w).token = some (t, id)) :
    Tokens store' (Function.update workers w pc) := by
  have old : ∀ {v t id}, (Function.update workers w pc v).token = some (t, id) →
      (workers v).token = some (t, id) := by
    intro v t id held
    rcases token_update held with ⟨rfl, own⟩ | ⟨-, own⟩
    · exact kept t id own
    · exact own
  refine ⟨?_, ?_, fun v t id held => ?_, fun v t id held => ?_, fun v v' t id one two => ?_⟩
  · rw [pending]
    simpa only [RedisStore.Waiting, jobs] using inv.listed
  · rw [pending]
    exact inv.nodup
  · simpa only [RedisStore.Waiting, jobs] using inv.carried v t id (old held)
  · rw [pending]
    exact inv.apart v t id (old held)
  · exact inv.single v v' t id (old one) (old two)

theorem write (inv : Tokens store workers) {job : JobEnvelope P}
    (unlisted : ∀ t, job.id ∉ store.pending t)
    (alone : ∀ v t, v ≠ w → (workers v).token ≠ some (t, job.id))
    (token : ∀ t id, pc.token = some (t, id) →
      t = job.type ∧ id = job.id ∧ job.status = .pending) :
    Tokens (store.write job) (Function.update workers w pc) := by
  have waits : ∀ {t id}, id ≠ job.id → store.Waiting t id → (store.write job).Waiting t id := by
    rintro t id other ⟨old, stored, facts⟩
    exact ⟨old, by rw [RedisStore.write_jobs, Table.get?_put_ne _ _ other, stored], facts⟩
  have others : ∀ {v t id}, v ≠ w → (workers v).token = some (t, id) → id ≠ job.id := by
    rintro v t id other held rfl
    exact alone v t other held
  refine ⟨fun t id member => ?_, inv.nodup, fun v t id held => ?_, fun v t id held => ?_,
    fun v v' t id one two => ?_⟩
  · have other : id ≠ job.id := fun same => unlisted t (same ▸ member)
    exact waits other (inv.listed t id member)
  · rcases token_update held with ⟨-, own⟩ | ⟨other, own⟩
    · obtain ⟨rfl, rfl, pending⟩ := token t id own
      exact ⟨job, Table.get?_put_self _ _, rfl, pending⟩
    · exact waits (others other own) (inv.carried v t id own)
  · rcases token_update held with ⟨-, own⟩ | ⟨-, own⟩
    · obtain ⟨-, rfl, -⟩ := token t id own
      exact unlisted t
    · exact inv.apart v t id own
  · rcases token_update one with ⟨rfl, own⟩ | ⟨other, own⟩ <;>
      rcases token_update two with ⟨rfl, own'⟩ | ⟨other', own'⟩
    · rfl
    · exact absurd (token t id own).2.1 (others other' own')
    · exact absurd (token t id own').2.1 (others other own)
    · exact inv.single v v' t id own own'

theorem push (inv : Tokens store workers) {t : JobType} {id : String}
    (held : (workers w).token = some (t, id)) (free : pc.token = none) :
    Tokens (store.rpushPending t id) (Function.update workers w pc) := by
  have old : ∀ {v t' id'}, (Function.update workers w pc v).token = some (t', id') →
      v ≠ w ∧ (workers v).token = some (t', id') := by
    intro v t' id' own
    rcases token_update own with ⟨-, own⟩ | other
    · rw [free] at own
      cases own
    · exact other
  refine ⟨fun t' id' member => ?_, fun t' => ?_, fun v t' id' own => ?_, fun v t' id' own => ?_,
    fun v v' t' id' one two => inv.single v v' t' id' (old one).2 (old two).2⟩
  · rcases RedisStore.mem_rpushPending.mp member with before | ⟨rfl, rfl⟩
    · exact inv.listed t' id' before
    · exact inv.carried w t' id' held
  · by_cases same : t' = t
    · subst same
      rw [RedisStore.rpushPending_self, List.nodup_append]
      refine ⟨inv.nodup t', by simp, fun a before b new => ?_⟩
      rw [List.mem_singleton.mp new]
      exact fun same => inv.apart w t' id held (same ▸ before)
    · have : (store.rpushPending t id).pending t' = store.pending t' := if_neg same
      rw [this]
      exact inv.nodup t'
  · exact inv.carried v t' id' (old own).2
  · intro member
    rcases RedisStore.mem_rpushPending.mp member with before | ⟨rfl, rfl⟩
    · exact inv.apart v t' id' (old own).2 before
    · exact (old own).1 (inv.single v w t' id' (old own).2 held)

theorem pop (inv : Tokens store workers) {t : JobType} {id : String} {rest : List String}
    (head : store.pending t = id :: rest) (taken : pc.token = some (t, id)) :
    Tokens (store.setPending t rest) (Function.update workers w pc) := by
  have smaller : ∀ t' id', id' ∈ (store.setPending t rest).pending t' → id' ∈ store.pending t' := by
    intro t' id' member
    by_cases same : t' = t
    · subst same
      rw [RedisStore.setPending_self] at member
      rw [head]
      exact List.mem_cons_of_mem id member
    · simpa [RedisStore.setPending, same] using member
  have headListed : id ∈ store.pending t := head ▸ List.mem_cons_self
  have once : id ∉ rest ∧ rest.Nodup := List.nodup_cons.mp (head ▸ inv.nodup t)
  have own_eq : ∀ {t' id'}, pc.token = some (t', id') → t' = t ∧ id' = id := by
    intro t' id' own
    obtain ⟨rfl, rfl⟩ := Prod.mk.inj (Option.some.inj (taken.symm.trans own))
    exact ⟨rfl, rfl⟩
  have nobody : ∀ {t' id'}, pc.token = some (t', id') → ∀ v, (workers v).token ≠ some (t', id') := by
    intro t' id' own v held
    obtain ⟨rfl, rfl⟩ := own_eq own
    exact inv.apart v _ _ held headListed
  refine ⟨fun t' id' member => inv.listed t' id' (smaller t' id' member), fun t' => ?_,
    fun v t' id' own => ?_, fun v t' id' own => ?_, fun v v' t' id' one two => ?_⟩
  · by_cases same : t' = t
    · subst same
      rw [RedisStore.setPending_self]
      exact once.2
    · have : (store.setPending t rest).pending t' = store.pending t' := if_neg same
      rw [this]
      exact inv.nodup t'
  · rcases token_update own with ⟨-, own⟩ | ⟨-, own⟩
    · obtain ⟨rfl, rfl⟩ := own_eq own
      exact inv.listed _ _ headListed
    · exact inv.carried v t' id' own
  · rcases token_update own with ⟨-, own⟩ | ⟨-, own⟩
    · obtain ⟨rfl, rfl⟩ := own_eq own
      rw [RedisStore.setPending_self]
      exact once.1
    · exact fun member => inv.apart v t' id' own (smaller t' id' member)
  · rcases token_update one with ⟨rfl, own⟩ | ⟨-, own⟩ <;>
      rcases token_update two with ⟨rfl, own'⟩ | ⟨-, own'⟩
    · rfl
    · exact absurd own' (nobody own v')
    · exact absurd own (nobody own' v)
    · exact inv.single v v' t' id' own own'

structure Sole (store : RedisStore P) (workers : Nat → Pc P) (w : Nat) (id : String) : Prop where
  unlisted : ∀ t, id ∉ store.pending t
  alone : ∀ v t, v ≠ w → (workers v).token ≠ some (t, id)

theorem sole_of_not_waiting (inv : Tokens store workers) {id : String}
    (idle : ∀ t, ¬ store.Waiting t id) : Sole store workers w id where
  unlisted := fun t member => idle t (inv.listed t id member)
  alone := fun v t _ held => idle t (inv.carried v t id held)

theorem sole_of_token (inv : Tokens store workers) {t : JobType} {id : String}
    (held : (workers w).token = some (t, id)) : Sole store workers w id where
  unlisted := by
    intro t' member
    obtain rfl := same_list (inv.listed t' id member) (inv.carried w t id held)
    exact inv.apart w t' id held member
  alone := by
    intro v t' other held'
    obtain rfl := same_list (inv.carried v t' id held') (inv.carried w t id held)
    exact other (inv.single v w t' id held' held)

end Tokens

private theorem Exclusive.setWorker {s : Cluster P} {w : Nat} {pc : Pc P} (inv : s.Exclusive)
    (free : pc.token = none) (copies : pc.Copies s.store s.clock) :
    (s.setWorker w pc).Exclusive where
  tokens := inv.tokens.keep rfl rfl (by simp [free])
  copies := by
    intro v
    rw [setWorker_workers]
    split
    · exact copies
    · exact inv.copies v
  leases := inv.leases

private theorem Exclusive.quiet {s : Cluster P} {w : Nat} {pc : Pc P} {store : RedisStore P}
    (inv : s.Exclusive) (jobs : store.jobs = s.store.jobs)
    (tokens : Tokens store (Function.update s.workers w pc)) (copies : pc.Copies store s.clock) :
    Exclusive { s.setWorker w pc with store := store, claims := s.claims } where
  tokens := tokens
  copies := by
    intro v
    change ((s.setWorker w pc).workers v).Copies store s.clock
    rw [setWorker_workers]
    split
    · exact copies
    · exact (inv.copies v).of_jobs jobs
  leases := by
    change Leases store.jobs s.claims s.clock
    rw [jobs]
    exact inv.leases

private theorem Exclusive.write {s : Cluster P} {w : Nat} {pc : Pc P} {job : JobEnvelope P}
    {claims : List ClaimRecord} (inv : s.Exclusive)
    (sole : Tokens.Sole s.store s.workers w job.id)
    (token : ∀ t id, pc.token = some (t, id) →
      t = job.type ∧ id = job.id ∧ job.status = .pending)
    (copies : pc.Copies (s.store.write job) s.clock)
    (leases : Leases (s.store.jobs.put job) claims s.clock) :
    Exclusive { s.setWorker w pc with store := s.store.write job, claims := claims } where
  tokens := inv.tokens.write sole.unlisted sole.alone token
  copies := by
    intro v
    change ((s.setWorker w pc).workers v).Copies (s.store.write job) s.clock
    rw [setWorker_workers]
    split
    · exact copies
    · next other => exact (inv.copies v).write fun t => sole.alone v t other
  leases := leases

private theorem Exclusive.command {s : Cluster P} {w : Nat} {store : RedisStore P} {pc : Pc P}
    (inv : s.Exclusive) (unchanged : s.ReapsUnchanged (.command w))
    (ran : (s.workers w).command s.store = some (store, pc)) :
    Exclusive { s.setWorker w pc with
      store := store, claims := returned (s.workers w) ++ s.claims } := by
  have copies := inv.copies w
  have own : ∀ {t id}, (s.workers w).token = some (t, id) →
      s.store.Waiting t id := fun held => inv.tokens.carried w _ _ held
  cases here : s.workers w with
  | idle | reapScan =>
    rw [here] at ran
    cases ran
  | finishRead | finishWrite | finishPush =>
    rw [here] at copies
    exact copies.elim
  | enqueueWrite job =>
    rw [here] at ran copies
    simp only [Pc.command] at ran
    split at ran
    · cases ran
    · next absent =>
      cases ran
      refine inv.write (inv.tokens.sole_of_not_waiting fun t waits => ?_) ?_ trivial
        (inv.leases.create absent copies.2)
      · obtain ⟨_, stored, -⟩ := waits
        simp [absent] at stored
      · intro t id held
        obtain ⟨rfl, rfl⟩ := Prod.mk.inj (Option.some.inj held)
        exact ⟨rfl, rfl, copies.1⟩
  | enqueuePush job =>
    rw [here] at ran
    cases ran
    exact inv.quiet rfl (inv.tokens.push (by rw [here]; rfl) rfl) trivial
  | reapWrite call job rest =>
    rw [here] at ran copies
    have unchanged : s.store.jobs.get? job.id = some job :=
      unchanged w rfl job (by rw [here]; rfl)
    cases ran
    obtain ⟨past, expired⟩ := copies
    have due := expired job List.mem_cons_self
    refine inv.write (inv.tokens.sole_of_not_waiting fun t waits => ?_) (fun t id held => ?_)
      ⟨past, fun j later => expired j (List.mem_cons_of_mem _ later)⟩
      (inv.leases.reap unchanged (JobEnvelope.due_iff.mp due).2 past)
    · -- the stored job is the expired copy, so it runs and waits in no list
      obtain ⟨waiting, stored, -, pending⟩ := waits
      rw [JobEnvelope.reaped_id] at stored
      obtain rfl := Option.some.inj (stored.symm.trans unchanged)
      rw [JobEnvelope.running_of_due due] at pending
      cases pending
    · simp only [Pc.token] at held
      split at held
      · next pending =>
        obtain ⟨rfl, rfl⟩ := Prod.mk.inj (Option.some.inj held)
        exact ⟨rfl, rfl, pending⟩
      · cases held
  | reapPush call updated rest =>
    rw [here] at ran copies
    cases ran
    have next := Pc.reapNext_token call rest
    refine inv.quiet (RedisStore.pushReturned_jobs _ _) ?_ (Pc.reapNext_copies copies)
    unfold RedisStore.pushReturned
    split
    · next pending =>
      exact inv.tokens.push (by rw [here, Pc.token, if_pos pending]) next
    · exact inv.tokens.keep rfl rfl (by simp [next])
  | claimPop call =>
    rw [here] at ran
    simp only [Pc.command] at ran
    split at ran
    · cases ran
      exact inv.quiet rfl (inv.tokens.keep rfl rfl (by simp [Pc.token])) trivial
    · next jobId rest head =>
      cases ran
      exact inv.quiet rfl (inv.tokens.pop head rfl) trivial
  | claimRead call jobId =>
    obtain ⟨job, stored, type, pending⟩ :=
      inv.tokens.carried w call.jobType jobId (by rw [here]; rfl)
    have key : job.id = jobId := Table.key_of_get? stored
    have kept : ∀ t id, some (call.jobType, job.id) = some (t, id) →
        (s.workers w).token = some (t, id) := by
      intro t id held
      rw [here, ← held, Pc.token, key]
    rw [here] at ran
    simp only [Pc.command, stored, pending, ne_eq, not_true_eq_false, if_false] at ran
    split_ifs at ran with early
    · cases ran
      exact inv.quiet rfl (inv.tokens.keep rfl rfl kept) ⟨type, key ▸ stored⟩
    · cases ran
      exact inv.quiet rfl (inv.tokens.keep rfl rfl kept) ⟨type, key ▸ stored⟩
  | claimRotate call job =>
    rw [here] at ran
    cases ran
    exact inv.quiet rfl (inv.tokens.push (by rw [here]; rfl) rfl) trivial
  | claimWrite call job =>
    have held : (s.workers w).token = some (call.jobType, job.id) := by rw [here]; rfl
    obtain ⟨waiting, stored, -, pending⟩ := own held
    rw [here] at ran copies
    cases ran
    obtain rfl := Option.some.inj (stored.symm.trans copies.2)
    exact inv.write (inv.tokens.sole_of_token held) (fun t id free => by cases free) trivial
      (inv.leases.claim stored pending)

theorem start_exclusive (clock : Time) : (start clock : Cluster P).Exclusive where
  tokens := by
    refine ⟨fun _ _ member => ?_, fun _ => List.nodup_nil, fun _ _ _ held => ?_,
      fun _ _ _ held => ?_, fun _ _ _ _ held => ?_⟩
    · cases member
    all_goals cases held
  copies := fun _ => trivial
  leases := by
    refine ⟨fun _ member => ?_, List.Pairwise.nil, fun _ _ stored => ?_⟩
    · cases member
    · cases stored

variable [DecidableEq P]

theorem step_exclusive {s s' : Cluster P} {e : Event P} (inv : s.Exclusive)
    (unchanged : s.ReapsUnchanged e) (claiming : e.reports = false)
    (moved : step s e = some s') : s'.Exclusive := by
  rcases step_cases moved with ⟨elapsed, rfl, rfl⟩ | ⟨w, pc, -, idle, rfl, started⟩ |
    ⟨w, reply, call, rfl, here, order, rfl⟩ | ⟨w, store, pc, rfl, ran, rfl⟩ | ⟨w, rfl, rfl⟩
  · have after : s.clock ≤ s.clock + elapsed :=
      Int.le_add_of_nonneg_right (Int.natCast_nonneg elapsed)
    exact ⟨inv.tokens, fun w => (inv.copies w).advance after, inv.leases.advance after⟩
  · rcases started with ⟨id, type, payload, maxAttempts, -, rfl⟩ | ⟨call, rfl, now, -⟩ |
      ⟨jobId, verdict, rfl, -⟩
    · unfold enqueuePc
      split
      · exact inv.setWorker rfl ⟨rfl, rfl⟩
      · exact inv.setWorker rfl trivial
    · exact inv.setWorker rfl ⟨Int.le_of_eq now, by simp⟩
    · cases claiming
  · have scanning := inv.copies w
    rw [here] at scanning
    refine inv.setWorker (Pc.reapNext_token ..) (Pc.reapNext_copies ⟨scanning.1, ?_⟩)
    exact fun job member => (List.mem_filter.mp member).2
  · exact inv.command unchanged ran
  · exact inv.setWorker rfl trivial

/-- Runs of claims and reaping, of any number of processes. -/
theorem single_claimant {clock : Time} {schedule : List (Event P)} {t : Cluster P}
    (ran : Machine.run step (start clock) schedule = some t)
    (claiming : ∀ e ∈ schedule, e.reports = false)
    (unchanged : Machine.Conforms step ReapsUnchanged (start clock) schedule) :
    t.SingleClaimant := by
  have inv : t.Exclusive := Machine.invariant_conforms
    (fun _ _ _ inv here moved => step_exclusive inv here.1 here.2 moved)
    (start_exclusive clock) (unchanged.and_labels claiming) ran
  exact ⟨inv.leases.exclusive, inv.leases.counted⟩

def queuedJob : JobEnvelope Unit :=
  JobEnvelope.create "job_1" .runExecution () 0 3 three_attempts

def leasedJob : JobEnvelope Unit := queuedJob.claimedBy "worker_1" 0 10

/-- Process 0 enqueues the job and process 1 claims it; then the lease runs out. -/
def claimedOnce : List (Event Unit) :=
  [.enqueue 0 "job_1" .runExecution () 3, .command 0, .command 0,
    .claim 1 .runExecution "worker_1" 10, .hvals 1 [queuedJob],
    .command 1, .command 1, .command 1, .advance 10000000]

def reclaimedOnce : List (Event Unit) :=
  claimedOnce ++ [.claim 2 .runExecution "worker_2" 10, .hvals 2 [leasedJob],
    .command 2, .command 2, .command 2, .command 2, .command 2]

/-- Processes 2 and 3 scan before either has written: both reap and both claim. -/
def reclaimedTwice : List (Event Unit) :=
  claimedOnce ++ [.claim 2 .runExecution "worker_2" 10, .hvals 2 [leasedJob],
    .claim 3 .runExecution "worker_3" 10, .hvals 3 [leasedJob],
    .command 2, .command 2, .command 2, .command 2, .command 2,
    .command 3, .command 3, .command 3, .command 3, .command 3]

theorem single_claimant_reclaimedOnce :
    (Machine.final step (start 0) reclaimedOnce rfl).SingleClaimant :=
  single_claimant (Machine.run_final _ _ _ rfl) (by decide) (by decide)

theorem reclaimedTwice_two_leases : ¬ ∀ (schedule : List (Event Unit)) (t : Cluster Unit),
    Machine.run step (start 0) schedule = some t → (∀ e ∈ schedule, e.reports = false) →
      t.SingleClaimant := by
  intro single
  have both := (single reclaimedTwice _ (Machine.run_final _ _ _ rfl) (by decide)).exclusive
  exact absurd both (by decide)

end Cluster

end Taroai.Workers
