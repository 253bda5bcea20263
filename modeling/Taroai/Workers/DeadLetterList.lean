import Taroai.Workers.RedisQueue

/-! The dead-letter listing of the Redis backend. The dead lists only ever grow, while the
stored status of a listed job may change. An operation is the list of its HSETs (`hsets`);
replaying them over the stored jobs gives the order in which jobs became dead letters,
independently of the lists that `list_dead_letters` reads. -/

namespace Taroai.Workers

section Grouping

variable {α κ : Type*}

theorem filter_append_filter_of_pairwise {p : α → Bool} {l : List α}
    (first : l.Pairwise fun a b => p b = true → p a = true) :
    l.filter p ++ l.filter (fun a => !p a) = l := by
  induction l with
  | nil => rfl
  | cons a rest ih =>
    rw [List.pairwise_cons] at first
    rw [List.filter_cons, List.filter_cons]
    by_cases here : p a = true
    · simp [here, ih first.2]
    · have none : rest.filter p = [] :=
        List.filter_eq_nil_iff.mpr fun b member found => here (first.1 b member found)
      have all := ih first.2
      rw [none, List.nil_append] at all
      simp [here, none, all]

theorem flatMap_filter_of_pairwise [DecidableEq κ] {key : α → κ} {order : List κ}
    (distinct : order.Nodup) {l : List α} (classes : ∀ a ∈ l, key a ∈ order)
    (sorted : l.Pairwise fun a b => order.idxOf (key a) ≤ order.idxOf (key b)) :
    (order.flatMap fun k => l.filter fun a => decide (key a = k)) = l := by
  induction order generalizing l with
  | nil =>
    cases l with
    | nil => rfl
    | cons a rest => exact absurd (classes a List.mem_cons_self) List.not_mem_nil
  | cons k rest ih =>
    rw [List.nodup_cons] at distinct
    have later : ∀ a, key a ≠ k → (k :: rest).idxOf (key a) = rest.idxOf (key a) + 1 :=
      fun a other => List.idxOf_cons_ne rest (Ne.symm other)
    have head : l.Pairwise fun a b => decide (key b = k) = true → decide (key a = k) = true := by
      refine sorted.imp fun {a b} before atHead => ?_
      rw [decide_eq_true_eq] at atHead ⊢
      by_contra other
      rw [later a other, atHead, List.idxOf_cons_self] at before
      omega
    have classesRest : ∀ a ∈ l.filter (fun a => !decide (key a = k)), key a ∈ rest := by
      intro a member
      obtain ⟨listed, other⟩ := List.mem_filter.mp member
      have differs : key a ≠ k := by simpa using other
      exact (List.mem_cons.mp (classes a listed)).resolve_left differs
    have sortedRest : (l.filter fun a => !decide (key a = k)).Pairwise fun a b =>
        rest.idxOf (key a) ≤ rest.idxOf (key b) := by
      refine (sorted.filter _).imp_of_mem fun {a b} left right before => ?_
      have leftOther : key a ≠ k := by simpa using (List.mem_filter.mp left).2
      have rightOther : key b ≠ k := by simpa using (List.mem_filter.mp right).2
      rw [later a leftOther, later b rightOther] at before
      omega
    have tail : (rest.flatMap fun k' => l.filter fun a => decide (key a = k')) =
        l.filter fun a => !decide (key a = k) := by
      rw [← ih distinct.2 classesRest sortedRest]
      refine List.flatMap_congr fun k' member => ?_
      rw [List.filter_filter]
      refine List.filter_congr fun a _ => ?_
      by_cases same : key a = k'
      · subst same
        have differs : key a ≠ k := fun equal => distinct.1 (equal ▸ member)
        simp [differs]
      · simp [same]
    rw [List.flatMap_cons, tail]
    exact filter_append_filter_of_pairwise head

end Grouping

variable {P : Type}

namespace RedisStore

def give (s : RedisStore P) (job : JobEnvelope P) : RedisStore P := (s.write job).pushReturned job

@[simp] theorem give_jobs (s : RedisStore P) (job : JobEnvelope P) :
    (s.give job).jobs = s.jobs.put job := by simp [give]

theorem give_dead (s : RedisStore P) (job : JobEnvelope P) (t : JobType) :
    (s.give job).dead t =
      s.dead t ++ if job.status ≠ .pending ∧ job.type = t then [job.id] else [] := by
  unfold give pushReturned
  by_cases pending : job.status = .pending
  · simp [pending]
  · by_cases same : t = job.type
    · simp [pending, same]
    · simp [pending, rpushDead, setDead, same, Ne.symm same]

end RedisStore

namespace RedisJobQueue

open RedisStore

theorem mapM_read {s : RedisStore P} {ids : List String} {jobs : List (JobEnvelope P)} :
    ids.mapM (read s) = .ok jobs ↔ ids.map s.jobs.get? = jobs.map some := by
  induction ids generalizing jobs with
  | nil =>
    rw [List.mapM_nil, List.map_nil]
    constructor
    · rintro ⟨⟩
      rfl
    · intro same
      obtain rfl := List.map_eq_nil_iff.mp same.symm
      rfl
  | cons id rest ih =>
    rw [List.mapM_cons, List.map_cons, read]
    cases found : s.jobs.get? id with
    | none =>
      constructor
      · rintro ⟨⟩
      · intro same
        cases jobs <;> simp at same
    | some job =>
      cases others : rest.mapM (read s) with
      | error error =>
        constructor
        · rintro ⟨⟩
        · intro same
          cases jobs with
          | nil => simp at same
          | cons first jobs =>
            rw [List.map_cons, List.cons.injEq] at same
            have impossible := ih.mpr same.2
            rw [others] at impossible
            cases impossible
      | ok tail =>
        have tails := ih.mp others
        constructor
        · rintro ⟨⟩
          rw [List.map_cons, tails]
        · intro same
          cases jobs with
          | nil => simp at same
          | cons first jobs =>
            rw [List.map_cons, List.cons.injEq, tails] at same
            obtain rfl := Option.some.inj same.1
            obtain rfl := List.map_injective_iff.mpr (Option.some_injective _) same.2
            rfl

theorem exists_mapM_read {s : RedisStore P} {ids : List String}
    (present : ∀ id ∈ ids, ∃ job, s.jobs.get? id = some job) :
    ∃ jobs, ids.mapM (read s) = .ok jobs := by
  induction ids with
  | nil => exact ⟨[], rfl⟩
  | cons id rest ih =>
    obtain ⟨jobs, others⟩ := ih fun next member => present next (List.mem_cons_of_mem _ member)
    obtain ⟨job, stored⟩ := present id List.mem_cons_self
    refine ⟨job :: jobs, ?_⟩
    rw [List.mapM_cons, read, stored, others]
    rfl

theorem ids_of_mapM_read {s : RedisStore P} {ids : List String} {jobs : List (JobEnvelope P)}
    (ran : ids.mapM (read s) = .ok jobs) : jobs.map JobEnvelope.id = ids := by
  have same := mapM_read.mp ran
  clear ran
  induction ids generalizing jobs with
  | nil =>
    obtain rfl := List.map_eq_nil_iff.mp same.symm
    rfl
  | cons id rest ih =>
    cases jobs with
    | nil => simp at same
    | cons first jobs =>
      rw [List.map_cons, List.map_cons, List.cons.injEq] at same
      rw [List.map_cons, ih same.2, Table.key_of_get? same.1]

theorem stored_of_mapM_read {s : RedisStore P} {ids : List String} {jobs : List (JobEnvelope P)}
    (ran : ids.mapM (read s) = .ok jobs) {job : JobEnvelope P} :
    job ∈ jobs ↔ job.id ∈ ids ∧ s.jobs.get? job.id = some job := by
  have same := mapM_read.mp ran
  have keys := ids_of_mapM_read ran
  constructor
  · intro member
    refine ⟨keys ▸ List.mem_map_of_mem member, ?_⟩
    have listed : some job ∈ ids.map s.jobs.get? := same ▸ List.mem_map_of_mem member
    obtain ⟨id, -, stored⟩ := List.mem_map.mp listed
    rw [Table.key_of_get? stored, stored]
  · rintro ⟨member, stored⟩
    have listed : some job ∈ jobs.map some := by
      rw [← same, ← stored]
      exact List.mem_map_of_mem member
    simpa using listed

variable (hvals : List (JobEnvelope P) → List (JobEnvelope P))

def hsets (s : RedisStore P) : Move P → List (JobEnvelope P)
  | .enqueue id type payload now maxAttempts =>
    match enqueue s id type payload now maxAttempts with
    | .ok (job, _) => [job]
    | .error _ => []
  | .claim jobType workerId now leaseSeconds =>
    (reapExpiredLeases hvals s (some jobType) now leaseExpiredError).1 ++
      (claim hvals s jobType workerId now leaseSeconds).1.toList
  | .reap jobType now error => (reapExpiredLeases hvals s jobType now error).1
  | .finish handle verdict now =>
    match finish s handle.jobId verdict now with
    | .ok (job, _) => [job]
    | .error _ => []

/-- The stored jobs and the identifiers in the order in which they became dead letters. -/
def writeDead (record : Table (JobEnvelope.id (P := P)) × List String) (job : JobEnvelope P) :
    Table (JobEnvelope.id (P := P)) × List String :=
  (record.1.put job,
    if job.status = .deadLetter ∧
        ∀ old ∈ record.1.get? job.id, old.status ≠ .deadLetter
    then record.2 ++ [job.id] else record.2)

theorem reap_gives (s : RedisStore P) (jobType : Option JobType) (now : Time) (error : String) :
    (reapExpiredLeases hvals s jobType now error).2 =
      (reapExpiredLeases hvals s jobType now error).1.foldl give s := by
  simp only [reapExpiredLeases]
  generalize hvals s.jobs.entries = snapshot
  induction snapshot generalizing s with
  | nil => rfl
  | cons job rest ih =>
    rw [List.foldl_cons, ih, reapJob, List.filter_cons]
    split
    · rfl
    · rfl

theorem claimLoop_dead (s : RedisStore P) (jobType : JobType) (workerId : String) (now : Time)
    (leaseSeconds : Int) (ids : List String) :
    (claimLoop s jobType workerId now leaseSeconds ids).2.dead = s.dead := by
  induction ids with
  | nil => rfl
  | cons jobId rest ih =>
    rw [claimLoop]
    split
    · exact ih
    · split_ifs
      · exact ih
      · rfl
      · rfl

/-- The listed identifiers are the jobs that are dead letters, in the order in which they
became that. -/
structure Tallied (s : RedisStore P) (deaths : List String) : Prop where
  once : deaths.Nodup
  died : ∀ id, id ∈ deaths ↔ ∃ job, s.jobs.get? id = some job ∧ job.status = .deadLetter
  exhausted : ∀ id job, s.jobs.get? id = some job → job.status = .deadLetter →
    job.maxAttempts ≤ job.attempts
  lists : ∀ t, s.dead t =
    deaths.filter fun id => (s.jobs.get? id).any fun job => decide (job.type = t)

structure Careful (s : RedisStore P) (job : JobEnvelope P) : Prop where
  alive : ∀ old ∈ s.jobs.get? job.id, old.status ≠ .deadLetter
  exhausted : job.status = .deadLetter → job.maxAttempts ≤ job.attempts

variable {hvals}

theorem Tallied.write {s s' : RedisStore P} {deaths : List String} {job : JobEnvelope P}
    (tallied : Tallied s deaths) (careful : Careful s job) (jobs : s'.jobs = s.jobs.put job)
    (dead : ∀ t, s'.dead t =
      s.dead t ++ if job.status = .deadLetter ∧ job.type = t then [job.id] else []) :
    Tallied s' (writeDead (s.jobs, deaths) job).2 := by
  have absent : job.id ∉ deaths := by
    rw [tallied.died]
    rintro ⟨old, stored, status⟩
    exact careful.alive old stored status
  have elsewhere : ∀ id ∈ deaths, s'.jobs.get? id = s.jobs.get? id := by
    intro id member
    rw [jobs]
    exact Table.get?_put_ne _ _ fun same => absent (same ▸ member)
  have unchanged : ∀ t, (deaths.filter fun id =>
      (s'.jobs.get? id).any fun job => decide (job.type = t)) = s.dead t := by
    intro t
    rw [tallied.lists t]
    exact List.filter_congr fun id member => by rw [elsewhere id member]
  have here : s'.jobs.get? job.id = some job := by rw [jobs, Table.get?_put_self]
  have other : ∀ id, id ≠ job.id → s'.jobs.get? id = s.jobs.get? id := by
    intro id differs
    rw [jobs, Table.get?_put_ne _ _ differs]
  have exhausted : ∀ id job, s'.jobs.get? id = some job → job.status = .deadLetter →
      job.maxAttempts ≤ job.attempts := by
    intro id found stored status
    by_cases same : id = job.id
    · rw [same, here] at stored
      cases stored
      exact careful.exhausted status
    · exact tallied.exhausted id found (other id same ▸ stored) status
  by_cases dies : job.status = .deadLetter
  · have after : (writeDead (s.jobs, deaths) job).2 = deaths ++ [job.id] :=
      if_pos ⟨dies, careful.alive⟩
    rw [after]
    refine ⟨?_, ?_, exhausted, ?_⟩
    · rw [List.nodup_append]
      refine ⟨tallied.once, List.nodup_singleton _, ?_⟩
      intro id member new listed same
      rw [List.mem_singleton] at listed
      exact absent (listed ▸ same ▸ member)
    · intro id
      rw [List.mem_append, List.mem_singleton]
      by_cases same : id = job.id
      · subst same
        simp [here, dies]
      · rw [other id same, ← tallied.died id]
        simp [same]
    · intro t
      rw [dead, List.filter_append, unchanged, List.filter_singleton, here]
      simp [dies]
  · have after : (writeDead (s.jobs, deaths) job).2 = deaths := if_neg fun both => dies both.1
    rw [after]
    refine ⟨tallied.once, ?_, exhausted, ?_⟩
    · intro id
      by_cases same : id = job.id
      · subst same
        simp [here, dies, absent]
      · rw [other id same, tallied.died id]
    · intro t
      rw [dead, unchanged]
      simp [dies]

theorem Tallied.give {s : RedisStore P} {deaths : List String} {job : JobEnvelope P}
    (tallied : Tallied s deaths) (careful : Careful s job)
    (given : job.status = .pending ∨ job.status = .deadLetter) :
    Tallied (s.give job) (writeDead (s.jobs, deaths) job).2 := by
  refine tallied.write careful (give_jobs s job) fun t => ?_
  rw [give_dead]
  rcases given with pending | dead
  · simp [pending]
  · simp [dead]

theorem Tallied.gives {s : RedisStore P} {deaths : List String} {jobs : List (JobEnvelope P)}
    (tallied : Tallied s deaths) (distinct : (jobs.map JobEnvelope.id).Nodup)
    (careful : ∀ job ∈ jobs, Careful s job)
    (given : ∀ job ∈ jobs, job.status = .pending ∨ job.status = .deadLetter) :
    (jobs.foldl RedisStore.give s).jobs = (jobs.foldl writeDead (s.jobs, deaths)).1 ∧
      Tallied (jobs.foldl RedisStore.give s) (jobs.foldl writeDead (s.jobs, deaths)).2 := by
  induction jobs generalizing s deaths with
  | nil => exact ⟨rfl, tallied⟩
  | cons job rest ih =>
    rw [List.map_cons, List.nodup_cons] at distinct
    have here := tallied.give (careful job List.mem_cons_self) (given job List.mem_cons_self)
    have pair : writeDead (s.jobs, deaths) job =
        ((s.give job).jobs, (writeDead (s.jobs, deaths) job).2) := by
      rw [give_jobs]
      rfl
    rw [List.foldl_cons, List.foldl_cons, pair]
    refine ih here distinct.2 (fun next member => ?_)
      fun next member => given next (List.mem_cons_of_mem _ member)
    have before := careful next (List.mem_cons_of_mem _ member)
    have other : next.id ≠ job.id := fun same =>
      distinct.1 (same ▸ List.mem_map_of_mem member)
    refine ⟨?_, before.exhausted⟩
    rw [give_jobs, Table.get?_put_ne _ _ other]
    exact before.alive

theorem reaped_distinct (order : ∀ jobs, (hvals jobs).Perm jobs) (s : RedisStore P)
    (jobType : Option JobType) (now : Time) (error : String) :
    ((reapExpiredLeases hvals s jobType now error).1.map JobEnvelope.id).Nodup := by
  have distinct : ((hvals s.jobs.entries).map JobEnvelope.id).Nodup :=
    ((order _).map _).nodup_iff.mpr s.jobs.nodup
  have ids : (reapExpiredLeases hvals s jobType now error).1.map JobEnvelope.id =
      ((hvals s.jobs.entries).filter fun job => job.due jobType now).map JobEnvelope.id := by
    refine List.map_map.trans ?_
    exact List.map_congr_left fun job _ => JobEnvelope.reaped_id job error now
  rw [ids]
  exact (List.filter_sublist.map _).nodup distinct

theorem reaped_source (order : ∀ jobs, (hvals jobs).Perm jobs) {s : RedisStore P}
    {jobType : Option JobType} {now : Time} {error : String} {job : JobEnvelope P}
    (member : job ∈ (reapExpiredLeases hvals s jobType now error).1) :
    ∃ old, s.jobs.get? old.id = some old ∧ old.status = .running ∧
      job = old.reaped error now := by
  obtain ⟨old, source, rfl⟩ := List.mem_map.mp member
  obtain ⟨listed, due⟩ := List.mem_filter.mp source
  have stored := Table.get?_of_mem ((order _).mem_iff.mp listed)
  exact ⟨old, stored, JobEnvelope.running_of_due due, rfl⟩

theorem reaped_given (job : JobEnvelope P) (error : String) (now : Time) :
    (job.reaped error now).status = .pending ∨ (job.reaped error now).status = .deadLetter := by
  rw [JobEnvelope.reaped_status]
  split <;> simp

theorem Tallied.reap (order : ∀ jobs, (hvals jobs).Perm jobs) {s : RedisStore P}
    {deaths : List String} (tallied : Tallied s deaths) (jobType : Option JobType) (now : Time)
    (error : String) :
    let reaped := reapExpiredLeases hvals s jobType now error
    reaped.2.jobs = (reaped.1.foldl writeDead (s.jobs, deaths)).1 ∧
      Tallied reaped.2 (reaped.1.foldl writeDead (s.jobs, deaths)).2 := by
  intro reaped
  have same : reaped.2 = reaped.1.foldl RedisStore.give s := reap_gives hvals s jobType now error
  rw [same]
  refine tallied.gives (reaped_distinct order s jobType now error) ?_ ?_
  · intro job member
    obtain ⟨old, present, running, rfl⟩ := reaped_source order member
    constructor
    · rw [JobEnvelope.reaped_id, present]
      rintro _ ⟨⟩
      simp [running]
    · rw [JobEnvelope.reaped_status]
      split
      · simp
      · next exhausted =>
        intro _
        simpa [JobEnvelope.reaped] using exhausted
  · intro job member
    obtain ⟨old, -, -, rfl⟩ := reaped_source order member
    exact reaped_given old error now

theorem Tallied.frame {s s' : RedisStore P} {deaths : List String} (tallied : Tallied s deaths)
    (jobs : s'.jobs = s.jobs) (dead : s'.dead = s.dead) : Tallied s' deaths := by
  obtain ⟨once, died, exhausted, lists⟩ := tallied
  exact ⟨once, by rwa [jobs], by rwa [jobs], by rwa [jobs, dead]⟩

theorem Tallied.enqueue {s s' : RedisStore P} {deaths : List String} (tallied : Tallied s deaths)
    {id : String} {jobType : JobType} {payload : P} {now : Time} {maxAttempts : Nat}
    {job : JobEnvelope P} (fresh : s.jobs.get? id = none)
    (ran : RedisJobQueue.enqueue s id jobType payload now maxAttempts = .ok (job, s')) :
    s'.jobs = s.jobs.put job ∧ Tallied s' (writeDead (s.jobs, deaths) job).2 := by
  unfold RedisJobQueue.enqueue at ran
  split at ran
  · next positive =>
    cases ran
    have careful : Careful s (JobEnvelope.create id jobType payload now maxAttempts positive) := by
      refine ⟨fun old stored => ?_, fun dead => by cases dead⟩
      rw [JobEnvelope.create, fresh] at stored
      cases stored
    exact ⟨rfl, tallied.give careful (Or.inl rfl)⟩
  · cases ran

theorem Tallied.claim (order : ∀ jobs, (hvals jobs).Perm jobs) {s s' : RedisStore P}
    {deaths : List String} (tallied : Tallied s deaths) {jobType : JobType} {workerId : String}
    {now : Time} {leaseSeconds : Int} {claimed : Option (JobEnvelope P)}
    (ran : RedisJobQueue.claim hvals s jobType workerId now leaseSeconds = (claimed, s')) :
    let writes := (reapExpiredLeases hvals s (some jobType) now leaseExpiredError).1 ++
      claimed.toList
    s'.jobs = (writes.foldl writeDead (s.jobs, deaths)).1 ∧
      Tallied s' (writes.foldl writeDead (s.jobs, deaths)).2 := by
  intro writes
  obtain ⟨jobs, swept⟩ := tallied.reap order (some jobType) now leaseExpiredError
  rw [List.foldl_append]
  unfold RedisJobQueue.claim at ran
  have dead := claimLoop_dead (reapExpiredLeases hvals s (some jobType) now leaseExpiredError).2
    jobType workerId now leaseSeconds
    ((reapExpiredLeases hvals s (some jobType) now leaseExpiredError).2.pending jobType)
  rw [ran] at dead
  cases claimed with
  | none =>
    have same := claimLoop_none ran
    exact ⟨same.trans jobs, swept.frame same dead⟩
  | some claimed =>
    obtain ⟨job, stored, pending, rfl, after⟩ := claimLoop_some ran
    have careful : Careful (reapExpiredLeases hvals s (some jobType) now leaseExpiredError).2
        (job.claimedBy workerId now leaseSeconds) := by
      refine ⟨fun old present => ?_, fun dead => by cases dead⟩
      rw [JobEnvelope.claimedBy_id, stored] at present
      cases present
      simp [pending]
    have written := swept.write careful after fun t => by
      rw [dead]
      simp
    simp only [Option.toList_some, List.foldl_cons, List.foldl_nil]
    rw [after, jobs] at *
    exact ⟨rfl, written⟩

theorem Tallied.finish {s s' : RedisStore P} {deaths : List String} (tallied : Tallied s deaths)
    {id : String} {verdict : Verdict} {now : Time} {job old : JobEnvelope P}
    (stored : s.jobs.get? id = some old) (alive : old.status ≠ .deadLetter)
    (ran : RedisJobQueue.finish s id verdict now = .ok (job, s')) :
    s'.jobs = s.jobs.put job ∧ Tallied s' (writeDead (s.jobs, deaths) job).2 := by
  rw [finish_of_get? stored] at ran
  have alone : ∀ updated : JobEnvelope P, updated.id = old.id →
      ∀ found ∈ s.jobs.get? updated.id, found.status ≠ .deadLetter := by
    intro updated same found present
    rw [same, Table.key_of_get? stored, stored] at present
    cases present
    exact alive
  cases verdict with
  | ack =>
    cases ran
    have careful : Careful s (old.acked now) := ⟨alone _ rfl, fun dead => by cases dead⟩
    exact ⟨rfl, tallied.write careful rfl fun t => by simp [JobEnvelope.finished, JobEnvelope.acked]⟩
  | fail error =>
    cases ran
    have careful : Careful s (old.failed error now) := ⟨alone _ rfl, fun dead => by cases dead⟩
    exact ⟨rfl, tallied.write careful rfl fun t => by
      simp [JobEnvelope.finished, JobEnvelope.failed]⟩
  | reject error retryDelaySeconds =>
    cases ran
    refine ⟨pushReturned_jobs .., tallied.give ⟨alone _ (JobEnvelope.finished_id ..), ?_⟩ ?_⟩
    · intro dead
      rw [JobEnvelope.finished, JobEnvelope.rejected, JobEnvelope.returned_status] at dead
      rw [JobEnvelope.finished, JobEnvelope.rejected, JobEnvelope.returned_attempts,
        JobEnvelope.returned_maxAttempts]
      split_ifs at dead with budget
      omega
    · rw [JobEnvelope.finished, JobEnvelope.rejected, JobEnvelope.returned_status]
      split <;> simp

end RedisJobQueue

/-- Any number of workers on the Redis queue, with the order in which jobs became dead letters. -/
structure DeadLetterHistory (P : Type) where
  fleet : Fleet (RedisStore P)
  deaths : List String

namespace DeadLetterHistory

open RedisJobQueue

variable (hvals : List (JobEnvelope P) → List (JobEnvelope P))

def empty : DeadLetterHistory P := ⟨⟨RedisStore.empty, []⟩, []⟩

def replayed (s : DeadLetterHistory P) (m : Move P) :
    Table (JobEnvelope.id (P := P)) × List String :=
  (hsets hvals s.fleet.queue m).foldl writeDead (s.fleet.queue.jobs, s.deaths)

def step (s : DeadLetterHistory P) (m : Move P) : Option (DeadLetterHistory P) :=
  (s.fleet.step (queue hvals) m).map fun fleet => ⟨fleet, (s.replayed hvals m).2⟩

def SparesDead (s : DeadLetterHistory P) (m : Move P) : Prop :=
  ∀ handle verdict now job, m = .finish handle verdict now →
    s.fleet.queue.jobs.get? handle.jobId = some job → job.status ≠ .deadLetter

def Tallied (s : DeadLetterHistory P) : Prop := RedisJobQueue.Tallied s.fleet.queue s.deaths

variable {hvals}

theorem step_eq_some {s s' : DeadLetterHistory P} {m : Move P} (moved : step hvals s m = some s') :
    s.fleet.step (queue hvals) m = some s'.fleet ∧ s'.deaths = (s.replayed hvals m).2 := by
  obtain ⟨fleet, ran, rfl⟩ := Option.map_eq_some_iff.mp moved
  exact ⟨ran, rfl⟩

/-- What one listing has to be: the dead letters of the type, each once, in the order in which
they became that. -/
structure Listed (s : DeadLetterHistory P) (jobType : Option JobType)
    (jobs : List (JobEnvelope P)) : Prop where
  once : (jobs.map JobEnvelope.id).Nodup
  exactly : ∀ job, job ∈ jobs ↔ s.fleet.queue.jobs.get? job.id = some job ∧
    job.status = .deadLetter ∧ ∀ t ∈ jobType, job.type = t
  inOrder : (jobs.map JobEnvelope.id).Sublist s.deaths

def ListsExactly (s : DeadLetterHistory P) : Prop :=
  ∀ jobType, ∃ jobs, listDeadLetters s.fleet.queue jobType = .ok jobs ∧ s.Listed jobType jobs

/-- The jobs became dead letters in the order in which the enumeration lists their types. -/
def TypeByType (s : DeadLetterHistory P) : Prop :=
  s.deaths.Pairwise fun first second => ∀ job ∈ s.fleet.queue.jobs.get? first,
    ∀ later ∈ s.fleet.queue.jobs.get? second,
      JobType.members.idxOf job.type ≤ JobType.members.idxOf later.type

/-- The HSETs of a call are all it does to the stored jobs, and its pushes are those of dead
letters, as long as no dead letter is reported on. -/
theorem tallied_step (order : ∀ jobs, (hvals jobs).Perm jobs) {s s' : DeadLetterHistory P}
    {m : Move P} (tallied : s.Tallied) (spares : s.SparesDead m)
    (moved : step hvals s m = some s') :
    s'.fleet.queue.jobs = (s.replayed hvals m).1 ∧ s'.Tallied := by
  obtain ⟨ran, deaths⟩ := step_eq_some moved
  obtain ⟨fleet, after⟩ := s'
  simp only at ran deaths
  unfold Tallied
  rw [deaths]
  unfold replayed
  cases m with
  | enqueue id type payload now maxAttempts =>
    simp only [Fleet.step, queue] at ran
    split at ran
    · cases ran
    · next fresh =>
      split at ran
      · next job store created =>
        cases ran
        simp only [hsets, created, List.foldl_cons, List.foldl_nil]
        exact RedisJobQueue.Tallied.enqueue tallied fresh created
      · next error created =>
        cases ran
        simp only [hsets, created, List.foldl_nil, true_and]
        exact tallied
  | claim jobType workerId now leaseSeconds =>
    simp only [Fleet.step, queue] at ran
    simp only [hsets]
    split at ran
    · next store taken =>
      cases ran
      rw [taken]
      exact RedisJobQueue.Tallied.claim order tallied taken
    · next claimed store taken =>
      cases ran
      rw [taken]
      exact RedisJobQueue.Tallied.claim order tallied taken
  | reap jobType now error =>
    cases ran
    exact RedisJobQueue.Tallied.reap order tallied jobType now error
  | finish handle verdict now =>
    simp only [Fleet.step, queue] at ran
    split_ifs at ran
    simp only [hsets]
    split at ran
    · next job store reported =>
      cases ran
      rw [reported]
      cases stored : s.fleet.queue.jobs.get? handle.jobId with
      | none =>
        have missing := (lawful hvals order).finish_none stored verdict now
        simp only [queue] at missing
        rw [missing] at reported
        cases reported
      | some old =>
        exact RedisJobQueue.Tallied.finish tallied stored
          (spares handle verdict now old rfl stored) reported
    · next error reported =>
      cases ran
      simp only [reported, List.foldl_nil, true_and]
      exact tallied

def typeOf (s : DeadLetterHistory P) (id : String) : JobType :=
  ((s.fleet.queue.jobs.get? id).map JobEnvelope.type).getD .cleanup

theorem dead_eq {s : DeadLetterHistory P} (tallied : s.Tallied) (t : JobType) :
    s.fleet.queue.dead t = s.deaths.filter fun id => decide (s.typeOf id = t) := by
  rw [tallied.lists]
  refine List.filter_congr fun id member => ?_
  obtain ⟨job, stored, -⟩ := (tallied.died id).mp member
  simp [typeOf, stored]

theorem typeByType_iff {s : DeadLetterHistory P} (tallied : s.Tallied) :
    s.TypeByType ↔ s.deaths.Pairwise fun first second =>
      JobType.members.idxOf (s.typeOf first) ≤ JobType.members.idxOf (s.typeOf second) := by
  refine List.Pairwise.iff_of_mem fun {first second} left right => ?_
  obtain ⟨job, stored, -⟩ := (tallied.died first).mp left
  obtain ⟨later, storedLater, -⟩ := (tallied.died second).mp right
  simp [typeOf, stored, storedLater]

/-- A listing of identifiers that are dead letters of the type, in order, is as it has to be. -/
theorem listed_of_ids {s : DeadLetterHistory P} (tallied : s.Tallied) {jobType : Option JobType}
    (ids : List String) (sub : ids.Sublist s.deaths)
    (all : ∀ id ∈ s.deaths, (id ∈ ids ↔ ∀ t ∈ jobType, s.typeOf id = t)) :
    ∃ jobs, ids.mapM (read s.fleet.queue) = .ok jobs ∧ s.Listed jobType jobs := by
  obtain ⟨jobs, ran⟩ : ∃ jobs, ids.mapM (read s.fleet.queue) = .ok jobs := by
    refine exists_mapM_read fun id member => ?_
    obtain ⟨job, stored, -⟩ := (tallied.died id).mp (sub.subset member)
    exact ⟨job, stored⟩
  have keys := ids_of_mapM_read ran
  refine ⟨jobs, ran, keys ▸ sub.nodup tallied.once, fun job => ?_, keys ▸ sub⟩
  rw [stored_of_mapM_read ran]
  constructor
  · rintro ⟨member, stored⟩
    have died := sub.subset member
    obtain ⟨found, present, dead⟩ := (tallied.died job.id).mp died
    rw [stored] at present
    cases present
    have types := (all job.id died).mp member
    refine ⟨stored, dead, fun t asked => ?_⟩
    have type := types t asked
    simpa [typeOf, stored] using type
  · rintro ⟨stored, dead, types⟩
    have died := (tallied.died job.id).mpr ⟨job, stored, dead⟩
    refine ⟨(all job.id died).mpr fun t asked => ?_, stored⟩
    simp [typeOf, stored, types t asked]

theorem members_flatMap_dead {s : DeadLetterHistory P} (tallied : s.Tallied) :
    JobType.members.flatMap s.fleet.queue.dead =
      JobType.members.flatMap fun t => s.deaths.filter fun id => decide (s.typeOf id = t) :=
  List.flatMap_congr fun t _ => dead_eq tallied t

theorem mem_members (t : JobType) : t ∈ JobType.members := by cases t <;> decide

theorem listsExactly_iff {s : DeadLetterHistory P} (tallied : s.Tallied) :
    s.ListsExactly ↔ s.TypeByType := by
  rw [typeByType_iff tallied]
  constructor
  · intro lists
    obtain ⟨jobs, ran, once, exactly, inOrder⟩ := lists none
    have keys := ids_of_mapM_read ran
    have every : s.deaths ⊆ jobs.map JobEnvelope.id := by
      intro id member
      obtain ⟨job, stored, dead⟩ := (tallied.died id).mp member
      have key : job.id = id := Table.key_of_get? stored
      rw [← key]
      exact List.mem_map_of_mem ((exactly job).mpr ⟨key ▸ stored, dead, by simp⟩)
    have same : jobs.map JobEnvelope.id = s.deaths :=
      inOrder.eq_of_length_le (tallied.once.length_le_of_subset every)
    rw [← same, keys, members_flatMap_dead tallied, List.pairwise_flatMap]
    constructor
    · intro t _
      refine List.pairwise_of_forall_mem_list fun first left second right => ?_
      have atFirst : s.typeOf first = t := by simpa using (List.mem_filter.mp left).2
      have atSecond : s.typeOf second = t := by simpa using (List.mem_filter.mp right).2
      exact Nat.le_of_eq (by rw [atFirst, atSecond])
    · have order : JobType.members.Pairwise fun t u =>
          JobType.members.idxOf t ≤ JobType.members.idxOf u := by decide
      refine order.imp fun {t u} before first left second right => ?_
      have atFirst : s.typeOf first = t := by simpa using (List.mem_filter.mp left).2
      have atSecond : s.typeOf second = u := by simpa using (List.mem_filter.mp right).2
      rwa [atFirst, atSecond]
  · intro sorted jobType
    cases jobType with
    | some t =>
      refine listed_of_ids tallied (s.fleet.queue.dead t) ?_ fun id member => ?_
      · rw [dead_eq tallied]
        exact List.filter_sublist
      · rw [dead_eq tallied]
        simp [member]
    | none =>
      have whole : JobType.members.flatMap s.fleet.queue.dead = s.deaths := by
        rw [members_flatMap_dead tallied]
        exact flatMap_filter_of_pairwise (by decide) (fun id _ => mem_members _) sorted
      refine listed_of_ids tallied (JobType.members.flatMap s.fleet.queue.dead) ?_
        fun id member => ?_
      · rw [whole]
      · rw [whole]
        simp [member]

theorem spares_of_listsExactly {s s' : DeadLetterHistory P} {m : Move P} (tallied : s.Tallied)
    (lists : s'.ListsExactly) (moved : step hvals s m = some s') : s.SparesDead m := by
  rintro handle verdict now job rfl stored dead
  obtain ⟨ran, -⟩ := step_eq_some moved
  have key : job.id = handle.jobId := Table.key_of_get? stored
  have member : job.id ∈ s.deaths :=
    (tallied.died job.id).mpr ⟨job, by rwa [key], dead⟩
  have listed : job.id ∈ s.fleet.queue.dead job.type := by
    rw [tallied.lists, List.mem_filter, key, stored]
    exact ⟨key ▸ member, by simp⟩
  simp only [Fleet.step, queue] at ran
  split_ifs at ran
  rw [finish_of_get? stored] at ran
  obtain ⟨jobs, read, once, exactly, -⟩ := lists (some job.type)
  have ids := ids_of_mapM_read read
  -- the stored job reads differently, while the list still has it
  have unpushed : ∀ updated : JobEnvelope P, updated.id = job.id →
      updated.status ≠ .deadLetter → s'.fleet.queue = s.fleet.queue.write updated → False := by
    intro updated same alive after
    have present : s'.fleet.queue.jobs.get? updated.id = some updated := by
      rw [after, RedisStore.write_jobs, Table.get?_put_self]
    have inList : updated ∈ jobs := by
      rw [stored_of_mapM_read read, after, RedisStore.write_dead, same]
      exact ⟨listed, same ▸ after ▸ present⟩
    exact alive ((exactly updated).mp inList).2.1
  cases verdict with
  | ack =>
    refine unpushed (job.acked now) rfl (fun dead => by cases dead) ?_
    rw [← Option.some.inj ran]
    rfl
  | fail error =>
    refine unpushed (job.failed error now) rfl (fun dead => by cases dead) ?_
    rw [← Option.some.inj ran]
    rfl
  | reject error retryDelaySeconds =>
    have exhausted := tallied.exhausted handle.jobId job stored dead
    have after : s'.fleet.queue = s.fleet.queue.give (job.deadLettered error now) := by
      rw [← Option.some.inj ran]
      have updated : job.finished (.reject error retryDelaySeconds) now =
          job.deadLettered error now := if_neg (by omega)
      simp only [updated]
      rfl
    have twice : s'.fleet.queue.dead job.type = s.fleet.queue.dead job.type ++ [job.id] := by
      rw [after, RedisStore.give_dead]
      simp [JobEnvelope.deadLettered]
    rw [ids, twice, List.nodup_append] at once
    exact once.2.2 job.id listed job.id List.mem_cons_self rfl

theorem tallied_empty : (empty : DeadLetterHistory P).Tallied where
  once := List.nodup_nil
  died id := by simp [empty, RedisStore.empty]
  exhausted id job stored := by simp [empty, RedisStore.empty] at stored
  lists t := rfl

/-- Every listing along a run is exact when no report reaches a dead letter and the jobs become
dead letters type by type, and in no other run. -/
theorem lists_exactly_iff (hvals : List (JobEnvelope P) → List (JobEnvelope P))
    (order : ∀ jobs, (hvals jobs).Perm jobs) (schedule : List (Move P)) :
    Machine.Along (step hvals) (fun _ _ s' => s'.ListsExactly) empty schedule ↔
      Machine.Along (step hvals) (fun s m s' => s.SparesDead m ∧ s'.TypeByType) empty
        schedule := by
  refine Machine.along_congr_of_invariant (I := Tallied) ?_ ?_ tallied_empty
  · intro s m s' tallied moved
    constructor
    · intro lists
      have spares := spares_of_listsExactly tallied lists moved
      exact ⟨spares, (listsExactly_iff (tallied_step order tallied spares moved).2).mp lists⟩
    · rintro ⟨spares, sorted⟩
      exact (listsExactly_iff (tallied_step order tallied spares moved).2).mpr sorted
  · intro s m s' tallied moved lists
    have spares := spares_of_listsExactly tallied lists moved
    exact (tallied_step order tallied spares moved).2

def lateAck : List (Move String) :=
  [.enqueue "job" .runExecution "run" 0 1, .claim .runExecution "worker" 0 10,
    .reap none (seconds 10) leaseExpiredError, .finish ⟨"job", "worker", 1⟩ .ack (seconds 11)]

theorem lists_exactly_iff_lateAck :
    Machine.Along (step fun jobs => jobs) (fun _ _ s' => s'.ListsExactly) empty lateAck ↔
      Machine.Along (step fun jobs => jobs) (fun s m s' => s.SparesDead m ∧ s'.TypeByType) empty
        lateAck :=
  lists_exactly_iff (fun jobs => jobs) (fun jobs => List.Perm.refl jobs) lateAck

theorem late_ack_stays_listed : ∃ t : DeadLetterHistory String,
    Machine.run (step fun jobs => jobs) empty lateAck = some t ∧ ¬ t.ListsExactly := by
  refine ⟨_, Machine.run_final _ _ _ rfl, fun lists => ?_⟩
  obtain ⟨jobs, ran, listed⟩ := lists (some .runExecution)
  have all : ∀ job ∈ jobs, job.status = .deadLetter := fun job member =>
    ((listed.exactly job).mp member).2.1
  cases ran
  revert all
  decide

end DeadLetterHistory

end Taroai.Workers
