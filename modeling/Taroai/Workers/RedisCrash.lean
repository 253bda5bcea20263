import Mathlib
import Taroai.Workers.RedisCommands

/-! Crashes between two commands. A pending job is accounted for when its identifier is in
the list of its type or with a process that has taken it or still owes the push. Every
command keeps the account, also with stale copies; a crash loses what only the crashed
process had. -/

namespace Taroai.Workers

variable {P : Type}

def RedisStore.Knows (s : RedisStore P) (t : JobType) (id : String) : Prop :=
  ∃ job, s.jobs.get? id = some job ∧ job.type = t

/-- Every identifier in a pending list is that of a stored job of the list's type. -/
def RedisStore.Listed (s : RedisStore P) : Prop := ∀ t, ∀ id ∈ s.pending t, s.Knows t id

def RedisStore.Keeps (s s' : RedisStore P) : Prop := ∀ t id, s.Knows t id → s'.Knows t id

namespace RedisStore

theorem knows_of_get? {s : RedisStore P} {id : String} {job : JobEnvelope P}
    (stored : s.jobs.get? id = some job) : s.Knows job.type id := ⟨job, stored, rfl⟩

theorem knows_of_mem {s : RedisStore P} {job : JobEnvelope P} (member : job ∈ s.jobs.entries) :
    s.Knows job.type job.id := ⟨job, Table.get?_of_mem member, rfl⟩

theorem knows_write_self (s : RedisStore P) (job : JobEnvelope P) :
    (s.write job).Knows job.type job.id := ⟨job, Table.get?_put_self _ _, rfl⟩

theorem Keeps.refl (s : RedisStore P) : s.Keeps s := fun _ _ known => known

theorem keeps_of_jobs {s s' : RedisStore P} (same : s'.jobs = s.jobs) : s.Keeps s' := by
  intro t id known
  rw [Knows, same]
  exact known

theorem write_keeps {s : RedisStore P} {job : JobEnvelope P}
    (legal : s.jobs.get? job.id = none ∨ s.Knows job.type job.id) : s.Keeps (s.write job) := by
  rintro t id ⟨old, stored, rfl⟩
  by_cases same : id = job.id
  · subst same
    rcases legal with absent | ⟨_, stored', type⟩
    · simp [absent] at stored
    · obtain rfl := Option.some.inj (stored.symm.trans stored')
      exact ⟨job, Table.get?_put_self _ _, type.symm⟩
  · exact ⟨old, by rw [write_jobs, Table.get?_put_ne _ _ same, stored], rfl⟩

theorem Listed.write {s : RedisStore P} {job : JobEnvelope P} (listed : s.Listed)
    (legal : s.jobs.get? job.id = none ∨ s.Knows job.type job.id) : (s.write job).Listed :=
  fun t id member => write_keeps legal t id (listed t id member)

theorem Listed.rpush {s : RedisStore P} {t : JobType} {id : String} (listed : s.Listed)
    (known : s.Knows t id) : (s.rpushPending t id).Listed := by
  intro t' id' member
  by_cases same : t' = t
  · subst same
    rw [rpushPending_self, List.mem_append, List.mem_singleton] at member
    rcases member with old | rfl
    · exact listed t' id' old
    · exact known
  · exact listed t' id' (by simpa [rpushPending, setPending, same] using member)

theorem Listed.pushReturned {s : RedisStore P} {job : JobEnvelope P} (listed : s.Listed)
    (known : s.Knows job.type job.id) : (s.pushReturned job).Listed := by
  unfold RedisStore.pushReturned
  split
  · exact listed.rpush known
  · exact listed

theorem Listed.pop {s : RedisStore P} {t : JobType} {id : String} {rest : List String}
    (listed : s.Listed) (head : s.pending t = id :: rest) : (s.setPending t rest).Listed := by
  intro t' id' member
  by_cases same : t' = t
  · subst same
    rw [setPending_self] at member
    exact listed t' id' (head ▸ List.mem_cons_of_mem id member)
  · exact listed t' id' (by simpa [setPending, same] using member)

end RedisStore

open RedisStore

namespace Pc

def Refers (s : RedisStore P) : Pc P → Prop
  | .idle | .enqueueWrite _ | .reapScan _ | .claimPop _ | .finishRead _ _ _ => True
  | .enqueuePush job | .finishPush job => s.Knows job.type job.id
  | .reapWrite _ job rest | .reapPush _ job rest => ∀ j ∈ job :: rest, s.Knows j.type j.id
  | .claimRead call jobId => s.Knows call.jobType jobId
  | .claimRotate call job | .claimWrite call job =>
    job.type = call.jobType ∧ s.Knows call.jobType job.id
  | .finishWrite updated pushes =>
    s.Knows updated.type updated.id ∧ (pushes = false → updated.status ≠ .pending)

theorem Refers.mono {s s' : RedisStore P} {pc : Pc P} (kept : s.Keeps s')
    (refers : pc.Refers s) : pc.Refers s' := by
  cases pc
  case reapWrite | reapPush => exact fun j member => kept _ _ (refers j member)
  case claimRotate | claimWrite => exact refers.imp_right (kept _ _)
  case finishWrite => exact refers.imp_left (kept _ _)
  case enqueuePush | finishPush | claimRead => exact kept _ _ refers
  all_goals trivial

theorem reapNext_refers {s : RedisStore P} (call : ReapCall) {jobs : List (JobEnvelope P)}
    (known : ∀ j ∈ jobs, s.Knows j.type j.id) : (reapNext call jobs).Refers s := by
  cases jobs with
  | nil =>
    rw [reapNext]
    split <;> trivial
  | cons job rest => exact known

theorem finished_status_of_not_pushes {job : JobEnvelope P} {verdict : Verdict} {now : Time}
    (silent : verdict.pushes = false) : (job.finished verdict now).status ≠ .pending := by
  cases verdict with
  | reject error retryDelaySeconds => cases silent
  | ack => simp [JobEnvelope.finished, JobEnvelope.acked]
  | fail error => simp [JobEnvelope.finished, JobEnvelope.failed]

/-- Where the identifier of a stored pending job is after a command: in the list, with the
process, or where it was before, in no list and with another process. -/
def Placed (s s' : RedisStore P) (pc pc' : Pc P) (job : JobEnvelope P) : Prop :=
  job.id ∈ s'.pending job.type ∨ pc'.token = some (job.type, job.id) ∨
    (s.jobs.get? job.id = some job ∧ job.id ∉ s.pending job.type ∧
      pc.token ≠ some (job.type, job.id))

private theorem placed_of_write {s : RedisStore P} {pc pc' : Pc P} {written job : JobEnvelope P}
    (stored : (s.write written).jobs.get? job.id = some job) (pending : job.status = .pending)
    (owed : written.status = .pending → pc'.token = some (written.type, written.id))
    (free : ∀ t id, pc.token = some (t, id) → id = written.id) :
    Placed s (s.write written) pc pc' job := by
  rw [write_jobs, Table.get?_put] at stored
  split at stored
  · obtain rfl := Option.some.inj stored
    exact Or.inr (Or.inl (owed pending))
  · next other =>
    by_cases listed : job.id ∈ s.pending job.type
    · exact Or.inl listed
    · exact Or.inr (Or.inr ⟨stored, listed, fun held => other (free _ _ held)⟩)

private theorem placed_of_rpush {s : RedisStore P} {pc pc' : Pc P} {t : JobType} {id : String}
    {job : JobEnvelope P} (stored : s.jobs.get? job.id = some job)
    (held : pc.token = some (t, id)) : Placed s (s.rpushPending t id) pc pc' job := by
  by_cases listed : job.id ∈ (s.rpushPending t id).pending job.type
  · exact Or.inl listed
  · refine Or.inr (Or.inr ⟨stored, fun old => listed (mem_rpushPending.mpr (Or.inl old)), ?_⟩)
    intro same
    obtain ⟨rfl, rfl⟩ := Prod.mk.inj (Option.some.inj (held.symm.trans same))
    exact listed (mem_rpushPending.mpr (Or.inr ⟨rfl, rfl⟩))

private theorem placed_of_pushReturned {s : RedisStore P} {pc pc' : Pc P}
    {updated job : JobEnvelope P} (stored : s.jobs.get? job.id = some job)
    (held : pc.token =
      if updated.status = .pending then some (updated.type, updated.id) else none) :
    Placed s (s.pushReturned updated) pc pc' job := by
  unfold pushReturned
  split
  · next pending => exact placed_of_rpush stored (by rw [held, if_pos pending])
  · next final =>
    rw [if_neg final] at held
    by_cases listed : job.id ∈ s.pending job.type
    · exact Or.inl listed
    · exact Or.inr (Or.inr ⟨stored, listed, by simp [held]⟩)

private theorem placed_of_read {s : RedisStore P} {pc pc' : Pc P} {job : JobEnvelope P}
    (stored : s.jobs.get? job.id = some job)
    (kept : pc.token = some (job.type, job.id) → pc'.token = some (job.type, job.id)) :
    Placed s s pc pc' job := by
  by_cases listed : job.id ∈ s.pending job.type
  · exact Or.inl listed
  · by_cases held : pc.token = some (job.type, job.id)
    · exact Or.inr (Or.inl (kept held))
    · exact Or.inr (Or.inr ⟨stored, listed, held⟩)

structure Accounts (s s' : RedisStore P) (pc pc' : Pc P) : Prop where
  keeps : s.Keeps s'
  listed : s'.Listed
  refers : pc'.Refers s'
  placed : ∀ job, s'.jobs.get? job.id = some job → job.status = .pending →
    Placed s s' pc pc' job

private theorem accounts_of_read {s : RedisStore P} {pc pc' : Pc P} (listed : s.Listed)
    (refers : pc'.Refers s)
    (kept : ∀ job, s.jobs.get? job.id = some job → job.status = .pending →
      pc.token = some (job.type, job.id) → pc'.token = some (job.type, job.id)) :
    Accounts s s pc pc' :=
  ⟨Keeps.refl s, listed, refers,
    fun job stored pending => placed_of_read stored (kept job stored pending)⟩

private theorem accounts_of_pushReturned {s : RedisStore P} {pc pc' : Pc P}
    {updated : JobEnvelope P} (listed : s.Listed) (known : s.Knows updated.type updated.id)
    (refers : pc'.Refers s)
    (held : pc.token =
      if updated.status = .pending then some (updated.type, updated.id) else none) :
    Accounts s (s.pushReturned updated) pc pc' where
  keeps := keeps_of_jobs (pushReturned_jobs s updated)
  listed := listed.pushReturned known
  refers := refers.mono (keeps_of_jobs (pushReturned_jobs s updated))
  placed := by
    intro job stored _
    rw [pushReturned_jobs] at stored
    exact placed_of_pushReturned stored held

theorem command_accounts {s s' : RedisStore P} {pc pc' : Pc P} (listed : s.Listed)
    (refers : pc.Refers s) (ran : pc.command s = some (s', pc')) : Accounts s s' pc pc' := by
  cases pc with
  | idle | reapScan => cases ran
  | enqueueWrite job =>
    simp only [command] at ran
    split at ran
    · cases ran
    · next absent =>
      cases ran
      exact ⟨write_keeps (Or.inl absent), listed.write (Or.inl absent), knows_write_self s job,
        fun _ stored pending => placed_of_write stored pending (fun _ => rfl) (by simp [token])⟩
  | enqueuePush job =>
    cases ran
    exact ⟨keeps_of_jobs rfl, listed.rpush refers, trivial,
      fun _ stored _ => placed_of_rpush stored rfl⟩
  | reapWrite call job rest =>
    cases ran
    have known : s.Knows job.type job.id := refers job List.mem_cons_self
    have legal : s.jobs.get? (job.reaped call.error call.now).id = none ∨
        s.Knows (job.reaped call.error call.now).type (job.reaped call.error call.now).id := by
      rw [JobEnvelope.reaped_id, JobEnvelope.reaped_type]
      exact Or.inr known
    refine ⟨write_keeps legal, listed.write legal, ?_, fun _ stored pending =>
      placed_of_write stored pending (fun owed => by simp only [token, owed, if_pos])
        (by simp [token])⟩
    intro j member
    rcases List.mem_cons.mp member with rfl | later
    · exact knows_write_self s _
    · exact write_keeps legal _ _ (refers j (List.mem_cons_of_mem _ later))
  | reapPush call updated rest =>
    cases ran
    exact accounts_of_pushReturned listed (refers updated List.mem_cons_self)
      (reapNext_refers call fun j later => refers j (List.mem_cons_of_mem _ later)) rfl
  | claimPop call =>
    simp only [command] at ran
    split at ran
    · cases ran
      exact accounts_of_read listed trivial (by simp [token])
    · next jobId rest head =>
      cases ran
      have known : s.Knows call.jobType jobId := listed _ _ (head ▸ List.mem_cons_self)
      refine ⟨keeps_of_jobs rfl, listed.pop head, known, fun job stored _ => ?_⟩
      by_cases here : job.id ∈ (s.setPending call.jobType rest).pending job.type
      · exact Or.inl here
      · by_cases before : job.id ∈ s.pending job.type
        · -- the popped head is the only entry that left a list
          refine Or.inr (Or.inl ?_)
          have type : job.type = call.jobType := by
            by_contra other
            exact here (by simpa [setPending, other] using before)
          rw [type, head, List.mem_cons] at before
          rw [type, setPending_self] at here
          rw [token, type, before.resolve_right here]
        · exact Or.inr (Or.inr ⟨stored, before, by simp [token]⟩)
  | claimRead call jobId =>
    simp only [command] at ran
    split at ran
    · next absent =>
      cases ran
      refine accounts_of_read listed trivial fun job stored _ held => ?_
      obtain ⟨-, rfl⟩ := Prod.mk.inj (Option.some.inj held)
      simp [absent] at stored
    · next found present =>
      have key : found.id = jobId := Table.key_of_get? present
      obtain ⟨owner, present', type⟩ := refers
      obtain rfl := Option.some.inj (present.symm.trans present')
      have known : s.Knows call.jobType found.id := ⟨found, key ▸ present, type⟩
      split_ifs at ran with taken early
      · cases ran
        refine accounts_of_read listed trivial fun job stored pending held => ?_
        obtain ⟨-, rfl⟩ := Prod.mk.inj (Option.some.inj held)
        obtain rfl := Option.some.inj (present.symm.trans stored)
        exact absurd pending taken
      · cases ran
        exact accounts_of_read listed ⟨type, known⟩ fun _ _ _ held => by rw [← held, token, token, key]
      · cases ran
        exact accounts_of_read listed ⟨type, known⟩ fun _ _ _ held => by rw [← held, token, token, key]
  | claimRotate call job =>
    cases ran
    exact ⟨keeps_of_jobs rfl, listed.rpush refers.2, trivial,
      fun _ stored _ => placed_of_rpush stored rfl⟩
  | claimWrite call job =>
    cases ran
    obtain ⟨type, known⟩ := refers
    have legal : s.jobs.get? job.id = none ∨ s.Knows job.type job.id := Or.inr (type ▸ known)
    refine ⟨write_keeps legal, listed.write legal, trivial, fun _ stored pending =>
      placed_of_write stored pending (fun running => by cases running) ?_⟩
    intro t id held
    exact (Prod.mk.inj (Option.some.inj held)).2.symm
  | finishRead jobId verdict now =>
    simp only [command] at ran
    split at ran
    · cases ran
      exact accounts_of_read listed trivial (by simp [token])
    · next job present =>
      cases ran
      have key : job.id = jobId := Table.key_of_get? present
      refine accounts_of_read listed ⟨?_, finished_status_of_not_pushes⟩ (by simp [token])
      rw [JobEnvelope.finished_type, JobEnvelope.finished_id, key]
      exact knows_of_get? present
  | finishWrite updated pushes =>
    cases ran
    obtain ⟨known, silent⟩ := refers
    refine ⟨write_keeps (Or.inr known), listed.write (Or.inr known), ?_, fun _ stored pending =>
      placed_of_write stored pending (fun owed => ?_) (by simp [token])⟩
    · split
      · exact knows_write_self s updated
      · trivial
    · cases pushes with
      | true => simp only [if_pos, token, owed]
      | false => exact absurd owed (silent rfl)
  | finishPush updated =>
    cases ran
    exact accounts_of_pushReturned listed refers trivial rfl

end Pc

namespace Cluster

structure Referenced (s : Cluster P) : Prop where
  listed : s.store.Listed
  refers : ∀ w, (s.workers w).Refers s.store

structure Accounted (s : Cluster P) : Prop extends Referenced s where
  pending : ∀ job, s.store.jobs.get? job.id = some job → job.status = .pending →
    job.id ∈ s.store.pending job.type ∨ ∃ w, (s.workers w).token = some (job.type, job.id)

/-- A crash is harmless unless its process alone has the identifier of a pending job. -/
def CrashKeepsToken (s : Cluster P) : Event P → Prop
  | .crash w =>
    match (s.workers w).token with
    | none => True
    | some (t, id) => ∀ job, s.store.jobs.get? id = some job → job.status = .pending →
        job.type = t → id ∈ s.store.pending t ∨
          ∃ other, other ≠ w ∧ (s.workers other).token = some (t, id)
  | _ => True

def Quiescent (s : Cluster P) : Prop := ∀ w, s.workers w = .idle

/-- Every stored pending job is in the list from which a claim of its type can return it. -/
def PendingListed (s : Cluster P) : Prop :=
  ∀ id job, s.store.jobs.get? id = some job → job.status = .pending →
    id ∈ s.store.pending job.type

def ListedStored (s : Cluster P) : Prop :=
  ∀ t, ∀ id ∈ s.store.pending t, ∃ job, s.store.jobs.get? id = some job

theorem start_referenced (clock : Time) : (start clock : Cluster P).Referenced where
  listed := fun _ _ member => by cases member
  refers := fun _ => trivial

theorem start_accounted (clock : Time) : (start clock : Cluster P).Accounted where
  toReferenced := start_referenced clock
  pending := fun _ stored => by cases stored

private theorem Referenced.setWorker {s : Cluster P} {w : Nat} {pc : Pc P}
    (inv : s.Referenced) (refers : pc.Refers s.store) : (s.setWorker w pc).Referenced where
  listed := inv.listed
  refers := by
    intro v
    rw [setWorker_workers]
    split
    · exact refers
    · exact inv.refers v

private theorem Accounted.setWorker {s : Cluster P} {w : Nat} {pc : Pc P} (inv : s.Accounted)
    (refers : pc.Refers s.store)
    (kept : ∀ job, s.store.jobs.get? job.id = some job → job.status = .pending →
      (s.workers w).token = some (job.type, job.id) →
        job.id ∈ s.store.pending job.type ∨
          ∃ other, other ≠ w ∧ (s.workers other).token = some (job.type, job.id)) :
    (s.setWorker w pc).Accounted where
  toReferenced := inv.toReferenced.setWorker refers
  pending := by
    intro job stored pending
    rcases inv.pending job stored pending with listed | ⟨v, held⟩
    · exact Or.inl listed
    · by_cases same : v = w
      · subst same
        refine (kept job stored pending held).imp_right fun ⟨other, differs, held'⟩ => ?_
        exact ⟨other, by rw [setWorker_workers, if_neg differs, held']⟩
      · exact Or.inr ⟨v, by rw [setWorker_workers, if_neg same, held]⟩

private theorem Referenced.command {s : Cluster P} {w : Nat} {store : RedisStore P} {pc : Pc P}
    {claims : List ClaimRecord} (inv : s.Referenced)
    (ran : (s.workers w).command s.store = some (store, pc)) :
    Referenced { s.setWorker w pc with store := store, claims := claims } := by
  obtain ⟨keeps, listed, refers, -⟩ := Pc.command_accounts inv.listed (inv.refers w) ran
  refine ⟨listed, fun v => ?_⟩
  change ((s.setWorker w pc).workers v).Refers store
  rw [setWorker_workers]
  split
  · exact refers
  · exact (inv.refers v).mono keeps

private theorem Accounted.command {s : Cluster P} {w : Nat} {store : RedisStore P} {pc : Pc P}
    {claims : List ClaimRecord} (inv : s.Accounted)
    (ran : (s.workers w).command s.store = some (store, pc)) :
    Accounted { s.setWorker w pc with store := store, claims := claims } := by
  refine ⟨inv.toReferenced.command ran, fun job stored pending => ?_⟩
  have placed := (Pc.command_accounts inv.listed (inv.refers w) ran).placed job stored pending
  have holder : ∀ v, v ≠ w → (s.workers v).token = some (job.type, job.id) →
      ((s.setWorker w pc).workers v).token = some (job.type, job.id) := by
    intro v other held
    rw [setWorker_workers, if_neg other, held]
  rcases placed with here | taken | ⟨before, unlisted, elsewhere⟩
  · exact Or.inl here
  · have own : ((s.setWorker w pc).workers w).token = some (job.type, job.id) := by
      rw [setWorker_workers, if_pos rfl, taken]
    exact Or.inr ⟨w, own⟩
  · rcases inv.pending job before pending with listed | ⟨v, held⟩
    · exact absurd listed unlisted
    · exact Or.inr ⟨v, holder v (fun same => elsewhere (same ▸ held)) held⟩

private theorem enqueuePc_refers {s : RedisStore P} (clock : Time) (id : String) (type : JobType)
    (payload : P) (maxAttempts : Nat) :
    (enqueuePc clock id type payload maxAttempts).Refers s := by
  unfold enqueuePc
  split <;> trivial

variable [DecidableEq P]

theorem step_referenced {s s' : Cluster P} {e : Event P} (inv : s.Referenced)
    (moved : step s e = some s') : s'.Referenced := by
  rcases step_cases moved with ⟨elapsed, rfl, rfl⟩ | ⟨w, pc, -, idle, rfl, started⟩ |
    ⟨w, reply, call, rfl, here, order, rfl⟩ | ⟨w, store, pc, rfl, ran, rfl⟩ | ⟨w, rfl, rfl⟩
  · exact ⟨inv.listed, inv.refers⟩
  · rcases started with ⟨id, type, payload, maxAttempts, -, rfl⟩ | ⟨call, rfl, -⟩ |
      ⟨jobId, verdict, -, rfl⟩
    · exact inv.setWorker (enqueuePc_refers ..)
    · exact inv.setWorker trivial
    · exact inv.setWorker trivial
  · refine inv.setWorker (Pc.reapNext_refers call fun j member => ?_)
    exact knows_of_mem (order.mem_iff.mp (List.mem_of_mem_filter member))
  · exact inv.command ran
  · exact inv.setWorker trivial

theorem step_accounted {s s' : Cluster P} {e : Event P} (inv : s.Accounted)
    (safe : s.CrashKeepsToken e) (moved : step s e = some s') : s'.Accounted := by
  have referenced := step_referenced inv.toReferenced moved
  -- a process at a command without a token has nothing to lose
  have leaves : ∀ {w : Nat} {old pc : Pc P}, s.workers w = old → old.token = none →
      s' = s.setWorker w pc → s'.Accounted := by
    rintro w old pc here none rfl
    refine inv.setWorker ?_ fun job _ _ held => ?_
    · have own := referenced.refers w
      rwa [setWorker_workers, if_pos rfl] at own
    · rw [here, none] at held
      cases held
  rcases step_cases moved with ⟨elapsed, rfl, rfl⟩ | ⟨w, pc, -, idle, rfl, started⟩ |
    ⟨w, reply, call, rfl, here, order, rfl⟩ | ⟨w, store, pc, rfl, ran, rfl⟩ | ⟨w, rfl, rfl⟩
  · exact ⟨referenced, inv.pending⟩
  · exact leaves idle rfl rfl
  · exact leaves here rfl rfl
  · exact inv.command ran
  · refine inv.setWorker trivial fun job stored pending held => ?_
    simp only [CrashKeepsToken, held] at safe
    exact safe job stored pending rfl

/-- A listed identifier always refers to a stored job. When no crash takes the only trace of
a pending job, every pending job is listed once all processes are at rest. -/
theorem no_job_lost {clock : Time} {schedule : List (Event P)} {t : Cluster P}
    (ran : Machine.run step (start clock) schedule = some t) :
    t.ListedStored ∧
    (Machine.Conforms step CrashKeepsToken (start clock) schedule → t.Quiescent →
      t.PendingListed) := by
  constructor
  · intro type id member
    have inv : t.Referenced := Machine.invariant_of_step
      (fun _ _ _ inv moved => step_referenced inv moved) (start_referenced clock) ran
    obtain ⟨job, stored, -⟩ := inv.listed type id member
    exact ⟨job, stored⟩
  · intro safe quiescent id job stored pending
    have inv : t.Accounted := Machine.invariant_conforms
      (fun _ _ _ inv here moved => step_accounted inv here moved) (start_accounted clock) safe ran
    obtain rfl : job.id = id := Table.key_of_get? stored
    rcases inv.pending job stored pending with listed | ⟨w, held⟩
    · exact listed
    · rw [quiescent w] at held
      cases held

def waitingJob : JobEnvelope Unit :=
  JobEnvelope.create "job_1" .runExecution () 0 3 three_attempts

/-- One process enqueues a job; another starts a claim and crashes when it has scanned. -/
def crashAfterScan : List (Event Unit) :=
  [.enqueue 0 "job_1" .runExecution () 3, .command 0, .command 0,
    .claim 1 .runExecution "worker_1" 10, .hvals 1 [waitingJob], .crash 1]

def crashAfterPop : List (Event Unit) :=
  [.enqueue 0 "job_1" .runExecution () 3, .command 0, .command 0,
    .claim 1 .runExecution "worker_1" 10, .hvals 1 [waitingJob], .command 1, .crash 1]

private theorem quiescent_of_workers {t : Cluster Unit} (schedule : List (Event Unit))
    (named : ∀ e ∈ schedule, e.worker = some 0 ∨ e.worker = some 1)
    (ran : Machine.run step (start 0) schedule = some t)
    (first : t.workers 0 = .idle) (second : t.workers 1 = .idle) : t.Quiescent := by
  intro w
  by_cases zero : w = 0
  · rw [zero, first]
  · by_cases one : w = 1
    · rw [one, second]
    · refine workers_of_run (fun e member same => ?_) ran
      rcases named e member with here | here
      · exact zero (Option.some.inj (same.symm.trans here))
      · exact one (Option.some.inj (same.symm.trans here))

private theorem crashAfterScan_quiescent :
    (Machine.final step (start 0) crashAfterScan rfl).Quiescent :=
  quiescent_of_workers crashAfterScan (by decide) (Machine.run_final _ _ _ rfl) rfl rfl

theorem no_job_lost_crashAfterScan :
    (Machine.final step (start 0) crashAfterScan rfl).PendingListed :=
  (no_job_lost (Machine.run_final _ _ _ rfl)).2
    (.cons rfl trivial (.cons rfl trivial (.cons rfl trivial (.cons rfl trivial
      (.cons rfl trivial (.cons rfl trivial trivial))))))
    crashAfterScan_quiescent

/-- After LPOP the identifier is in no list: all processes rest and the job stays pending. -/
theorem crashAfterPop_loses_job : ¬ ∀ (schedule : List (Event Unit)) (t : Cluster Unit),
    Machine.run step (start 0) schedule = some t → t.Quiescent →
      t.PendingListed ∧ t.ListedStored := by
  intro kept
  have ran := Machine.run_final step (start 0) crashAfterPop rfl
  have atRest := quiescent_of_workers crashAfterPop (by decide) ran rfl rfl
  have listed := (kept crashAfterPop _ ran atRest).1 "job_1" waitingJob (by decide) rfl
  exact absurd listed (by decide)

end Cluster

end Taroai.Workers
