import Taroai.Workers.DeadLetterList
import Taroai.Workers.MemoryQueue

/-! The two backends in lockstep: one list of jobs in order of creation beside a hash and
lists of identifiers. They answer alike as long as the lists of the Redis backend stay in
order of creation, which is the order the in-memory queue always keeps, and no claim meets
a delayed job in front of another pending one. -/

namespace Taroai.Workers

variable {P : Type}

namespace JobQueue

variable {σ : Type} (Q : JobQueue P σ)

/-- A call by what it returns and leaves; a call that raises returns nothing and leaves the
queue alone. -/
def perform (s : σ) : Move P → Option (JobEnvelope P) × σ
  | .enqueue id type payload now maxAttempts =>
    match Q.enqueue s id type payload now maxAttempts with
    | .ok (job, s') => (some job, s')
    | .error _ => (none, s)
  | .claim jobType workerId now leaseSeconds => Q.claim s jobType workerId now leaseSeconds
  | .reap jobType now error => (none, (Q.reapExpiredLeases s jobType now error).2)
  | .finish handle verdict now =>
    match Q.finish s handle.jobId verdict now with
    | .ok (job, s') => (some job, s')
    | .error _ => (none, s)

end JobQueue

structure QueueTwins (P : Type) where
  memory : InMemoryJobQueue P
  redis : RedisStore P

/-- A call on both queues, with the same arguments and the same reading of the clock. -/
inductive TwinCall (P : Type) where
  | operation (m : Move P)
  | listDeadLetters (jobType : Option JobType)

namespace RedisStore

def isPending (s : RedisStore P) (id : String) : Bool :=
  (s.jobs.get? id).any fun job => decide (job.status = .pending)

def live (s : RedisStore P) (t : JobType) : List String := (s.pending t).filter s.isPending

structure Ordered (s : RedisStore P) (created : List String) : Prop where
  pending : ∀ t, (s.live t).Sublist created
  listed : ∀ id job, s.jobs.get? id = some job → job.status = .pending →
    id ∈ s.pending job.type
  typed : ∀ t, ∀ id ∈ s.pending t, ∃ job, s.jobs.get? id = some job ∧ job.type = t
  dead : ∀ t, (s.dead t).Sublist created
  died : ∀ t id, id ∈ s.dead t ↔
    ∃ job, s.jobs.get? id = some job ∧ job.status = .deadLetter ∧ job.type = t

theorem isPending_iff {s : RedisStore P} {id : String} :
    s.isPending id = true ↔ ∃ job, s.jobs.get? id = some job ∧ job.status = .pending := by
  cases stored : s.jobs.get? id <;> simp [isPending, stored]

theorem Ordered.mem_live {s : RedisStore P} {created : List String} (ordered : s.Ordered created)
    {t : JobType} {id : String} :
    id ∈ s.live t ↔ ∃ job, s.jobs.get? id = some job ∧ job.status = .pending ∧ job.type = t := by
  rw [live, List.mem_filter, isPending_iff]
  constructor
  · rintro ⟨member, job, stored, pending⟩
    obtain ⟨found, same, type⟩ := ordered.typed t id member
    rw [stored] at same
    obtain rfl := Option.some.inj same
    exact ⟨job, stored, pending, type⟩
  · rintro ⟨job, stored, pending, rfl⟩
    exact ⟨ordered.listed id job stored pending, job, stored, pending⟩

theorem pushReturned_pending (s : RedisStore P) (job : JobEnvelope P) (t : JobType) :
    (s.pushReturned job).pending t =
      s.pending t ++ if job.status = .pending ∧ job.type = t then [job.id] else [] := by
  unfold pushReturned
  by_cases pending : job.status = .pending
  · by_cases same : t = job.type
    · simp [pending, same]
    · simp [pending, rpushPending, setPending, same, Ne.symm same]
  · simp [pending]

theorem give_pending (s : RedisStore P) (job : JobEnvelope P) (t : JobType) :
    (s.give job).pending t =
      s.pending t ++ if job.status = .pending ∧ job.type = t then [job.id] else [] :=
  pushReturned_pending (s.write job) job t

section Writes

variable {s s' : RedisStore P} {job : JobEnvelope P}

theorem isPending_put (jobs : s'.jobs = s.jobs.put job) (k : String) :
    s'.isPending k =
      if k = job.id then decide (job.status = .pending) else s.isPending k := by
  rw [isPending, jobs, Table.get?_put]
  split <;> rfl

theorem filter_isPending_of_notMem (jobs : s'.jobs = s.jobs.put job) {ids : List String}
    (absent : job.id ∉ ids) : ids.filter s'.isPending = ids.filter s.isPending := by
  refine List.filter_congr fun k member => ?_
  have other : k ≠ job.id := fun same => absent (same ▸ member)
  rw [isPending_put jobs, if_neg other]

theorem filter_isPending_of_notPending (jobs : s'.jobs = s.jobs.put job)
    (settled : job.status ≠ .pending) (ids : List String) :
    ids.filter s'.isPending = (ids.filter s.isPending).filter fun k => decide (k ≠ job.id) := by
  rw [List.filter_filter]
  refine List.filter_congr fun k _ => ?_
  rw [isPending_put jobs]
  by_cases same : k = job.id <;> simp [same, settled]

end Writes

theorem Ordered.mono {s : RedisStore P} {created created' : List String}
    (ordered : s.Ordered created) (sub : created.Sublist created') : s.Ordered created' :=
  ⟨fun t => (ordered.pending t).trans sub, ordered.listed, ordered.typed,
    fun t => (ordered.dead t).trans sub, ordered.died⟩

theorem Ordered.repend {s s' : RedisStore P} {created : List String} (ordered : s.Ordered created)
    (jobs : s'.jobs = s.jobs) (dead : s'.dead = s.dead)
    (fewer : ∀ t, ∀ id ∈ s'.pending t, id ∈ s.pending t) (live : ∀ t, s'.live t = s.live t) :
    s'.Ordered created where
  pending t := live t ▸ ordered.pending t
  listed id job stored pending := by
    rw [jobs] at stored
    have member : id ∈ s'.live job.type := by
      rw [live]
      exact ordered.mem_live.mpr ⟨job, stored, pending, rfl⟩
    exact List.mem_of_mem_filter member
  typed t id member := by
    rw [jobs]
    exact ordered.typed t id (fewer t id member)
  dead t := dead ▸ ordered.dead t
  died t id := by
    rw [jobs, dead]
    exact ordered.died t id

theorem Ordered.write {s : RedisStore P} {created : List String} (ordered : s.Ordered created)
    {old job : JobEnvelope P} (stored : s.jobs.get? job.id = some old) (type : old.type = job.type)
    (alive : old.status ≠ .deadLetter) (settled : job.status ≠ .pending)
    (survives : job.status ≠ .deadLetter) : (s.write job).Ordered created where
  pending t := by
    rw [live, filter_isPending_of_notPending rfl settled]
    exact List.filter_sublist.trans (ordered.pending t)
  listed id found present pending := by
    rw [write_jobs, Table.get?_put] at present
    split at present
    · cases present
      exact absurd pending settled
    · exact ordered.listed id found present pending
  typed t id member := by
    rw [write_jobs, Table.get?_put]
    obtain ⟨found, present, same⟩ := ordered.typed t id member
    split
    · next here =>
      rw [here, stored] at present
      cases present
      exact ⟨job, rfl, type ▸ same⟩
    · exact ⟨found, present, same⟩
  dead := ordered.dead
  died t id := by
    rw [write_dead, ordered.died, write_jobs, Table.get?_put]
    split
    · next here =>
      rw [here, stored]
      simp [alive, survives]
    · rfl

theorem setPending_live (s : RedisStore P) (t t' : JobType) (ids : List String) :
    (s.setPending t ids).live t' = if t' = t then ids.filter s.isPending else s.live t' := by
  unfold live setPending
  split
  · next same => simp only [if_pos same]; rfl
  · next other => simp only [if_neg other]; rfl

theorem mem_setPending {s : RedisStore P} {t t' : JobType} {ids : List String} {id : String}
    (fewer : ∀ k ∈ ids, k ∈ s.pending t) (member : id ∈ (s.setPending t ids).pending t') :
    id ∈ s.pending t' := by
  unfold setPending at member
  simp only at member
  split at member
  · next same => exact same ▸ fewer id member
  · exact member

structure Joins (s : RedisStore P) (created : List String) (job : JobEnvelope P) : Prop where
  sameType : ∀ old ∈ s.jobs.get? job.id, old.type = job.type
  alive : ∀ old ∈ s.jobs.get? job.id, old.status ≠ .deadLetter
  given : job.status = .pending ∨ job.status = .deadLetter
  unlisted : job.status = .pending → job.id ∉ s.pending job.type
  behindPending : job.status = .pending → (s.live job.type ++ [job.id]).Sublist created
  behindDead : job.status = .deadLetter → (s.dead job.type ++ [job.id]).Sublist created

theorem give_live_of_pending {s : RedisStore P} {created : List String} {job : JobEnvelope P}
    (ordered : s.Ordered created) (joins : s.Joins created job) (pending : job.status = .pending)
    (t : JobType) :
    (s.give job).live t = s.live t ++ if job.type = t then [job.id] else [] := by
  have absent : job.id ∉ s.pending t := by
    intro member
    obtain ⟨old, stored, type⟩ := ordered.typed t job.id member
    exact joins.unlisted pending (joins.sameType old stored ▸ type ▸ member)
  have here : (s.give job).isPending job.id = true := by
    rw [isPending_put (give_jobs s job), if_pos rfl, pending]
    rfl
  rw [live, give_pending, List.filter_append, filter_isPending_of_notMem (give_jobs s job) absent]
  by_cases same : job.type = t
  · simp [live, pending, same, here]
  · simp [live, pending, same]

theorem give_live_of_dead {s : RedisStore P} {job : JobEnvelope P}
    (dead : job.status = .deadLetter) (t : JobType) :
    (s.give job).live t = (s.live t).filter fun k => decide (k ≠ job.id) := by
  have settled : job.status ≠ .pending := by simp [dead]
  rw [live, give_pending, filter_isPending_of_notPending (give_jobs s job) settled]
  simp [live, settled]

theorem Ordered.give {s : RedisStore P} {created : List String} {job : JobEnvelope P}
    (ordered : s.Ordered created) (joins : s.Joins created job) : (s.give job).Ordered created where
  pending t := by
    rcases joins.given with pending | dead
    · rw [give_live_of_pending ordered joins pending]
      by_cases same : job.type = t
      · subst same
        simpa using joins.behindPending pending
      · simpa [same] using ordered.pending t
    · rw [give_live_of_dead dead]
      exact List.filter_sublist.trans (ordered.pending t)
  listed id found present pending := by
    rw [give_jobs, Table.get?_put] at present
    rw [give_pending, List.mem_append]
    split at present
    · next here =>
      cases present
      exact Or.inr (by simp [pending, here])
    · exact Or.inl (ordered.listed id found present pending)
  typed t id member := by
    rw [give_pending, List.mem_append] at member
    rw [give_jobs, Table.get?_put]
    rcases member with member | new
    · obtain ⟨found, present, same⟩ := ordered.typed t id member
      split
      · next here =>
        subst here
        exact ⟨job, rfl, joins.sameType found present ▸ same⟩
      · exact ⟨found, present, same⟩
    · split at new
      · next both =>
        rw [List.mem_singleton] at new
        exact ⟨job, if_pos new, both.2⟩
      · cases new
  dead t := by
    rw [give_dead]
    split
    · next both =>
      have dead := joins.given.resolve_left both.1
      exact both.2 ▸ joins.behindDead dead
    · simpa using ordered.dead t
  died t id := by
    rw [give_dead, List.mem_append, ordered.died, give_jobs, Table.get?_put]
    by_cases here : id = job.id
    · subst here
      have gone : ¬ ∃ old, s.jobs.get? job.id = some old ∧ old.status = .deadLetter ∧
          old.type = t := by
        rintro ⟨old, stored, dead, -⟩
        exact joins.alive old stored dead
      rcases joins.given with pending | dead
      · simp [gone, pending]
      · simp [gone, dead]
    · have other : id ∉ if job.status ≠ .pending ∧ job.type = t then [job.id] else [] := by
        split <;> simp [here]
      simp [here, other]

/-- Jobs that one operation gives back, in its order, go behind everything that is pending, or
dead, of their type, and are not in the pending list already. -/
structure Behind (s : RedisStore P) (created : List String) (jobs : List (JobEnvelope P)) :
    Prop where
  unlisted : ∀ job ∈ jobs, job.status = .pending → job.id ∉ s.pending job.type
  behindPending : ∀ t, (s.live t ++ (jobs.filter fun job =>
    decide (job.status = .pending) && decide (job.type = t)).map JobEnvelope.id).Sublist created
  behindDead : ∀ t, (s.dead t ++ (jobs.filter fun job =>
    decide (job.status = .deadLetter) && decide (job.type = t)).map JobEnvelope.id).Sublist created

theorem Behind.joins {s : RedisStore P} {created : List String} {job : JobEnvelope P}
    {rest : List (JobEnvelope P)} (behind : s.Behind created (job :: rest))
    (sameType : ∀ old ∈ s.jobs.get? job.id, old.type = job.type)
    (alive : ∀ old ∈ s.jobs.get? job.id, old.status ≠ .deadLetter)
    (given : job.status = .pending ∨ job.status = .deadLetter) : s.Joins created job where
  sameType := sameType
  alive := alive
  given := given
  unlisted := behind.unlisted job List.mem_cons_self
  behindPending pending := by
    refine List.Sublist.trans ?_ (behind.behindPending job.type)
    rw [List.filter_cons_of_pos (by simp [pending]), List.map_cons]
    exact ((List.nil_sublist _).cons_cons job.id).append_left _
  behindDead dead := by
    refine List.Sublist.trans ?_ (behind.behindDead job.type)
    rw [List.filter_cons_of_pos (by simp [dead]), List.map_cons]
    exact ((List.nil_sublist _).cons_cons job.id).append_left _

structure JoinInTurn (s : RedisStore P) (created : List String) (jobs : List (JobEnvelope P)) :
    Prop extends Behind s created jobs where
  distinct : (jobs.map JobEnvelope.id).Nodup
  running : ∀ job ∈ jobs, ∃ old, s.jobs.get? job.id = some old ∧ old.status = .running ∧
    old.type = job.type
  given : ∀ job ∈ jobs, job.status = .pending ∨ job.status = .deadLetter

theorem JoinInTurn.head {s : RedisStore P} {created : List String} {job : JobEnvelope P}
    {rest : List (JobEnvelope P)} (turn : s.JoinInTurn created (job :: rest)) :
    s.Joins created job := by
  obtain ⟨old, stored, running, type⟩ := turn.running job List.mem_cons_self
  refine turn.toBehind.joins ?_ ?_ (turn.given job List.mem_cons_self)
  · rw [stored]
    rintro _ ⟨⟩
    exact type
  · rw [stored]
    rintro _ ⟨⟩
    simp [running]

theorem JoinInTurn.tail {s : RedisStore P} {created : List String} {job : JobEnvelope P}
    {rest : List (JobEnvelope P)} (ordered : s.Ordered created)
    (turn : s.JoinInTurn created (job :: rest)) : (s.give job).JoinInTurn created rest := by
  have joins := turn.head
  have distinct := turn.distinct
  rw [List.map_cons, List.nodup_cons] at distinct
  have other : ∀ next ∈ rest, next.id ≠ job.id := fun next member same =>
    distinct.1 (same ▸ List.mem_map_of_mem member)
  refine ⟨⟨?_, fun t => ?_, fun t => ?_⟩, distinct.2, ?_,
    fun next member => turn.given next (List.mem_cons_of_mem _ member)⟩
  · intro next member pending listed
    rw [give_pending, List.mem_append] at listed
    refine listed.elim (turn.unlisted next (List.mem_cons_of_mem _ member) pending) ?_
    split
    · simp [other next member]
    · simp
  · have whole := turn.behindPending t
    rcases joins.given with pending | dead
    · rw [give_live_of_pending ordered joins pending, List.append_assoc]
      rw [List.filter_cons] at whole
      by_cases same : job.type = t
      · simpa [pending, same] using whole
      · simpa [pending, same] using whole
    · have absent : ∀ k ∈ s.live t, k ≠ job.id := by
        rintro k member rfl
        obtain ⟨old, stored, running, -⟩ := turn.running job List.mem_cons_self
        obtain ⟨found, present, pending, -⟩ := ordered.mem_live.mp member
        rw [stored] at present
        cases present
        simp [running] at pending
      have unchanged : ((s.live t).filter fun k => decide (k ≠ job.id)) = s.live t :=
        List.filter_eq_self.mpr fun k member => decide_eq_true (absent k member)
      rw [give_live_of_dead dead, unchanged]
      rw [List.filter_cons] at whole
      simpa [dead] using whole
  · have whole := turn.behindDead t
    rw [give_dead, List.append_assoc]
    rw [List.filter_cons] at whole
    rcases joins.given with pending | dead
    · simpa [pending] using whole
    · by_cases same : job.type = t
      · simpa [dead, same] using whole
      · simpa [dead, same] using whole
  · intro next member
    rw [give_jobs, Table.get?_put_ne _ _ (other next member)]
    exact turn.running next (List.mem_cons_of_mem _ member)

theorem Ordered.gives {s : RedisStore P} {created : List String} {jobs : List (JobEnvelope P)}
    (ordered : s.Ordered created) (turn : s.JoinInTurn created jobs) :
    (jobs.foldl RedisStore.give s).Ordered created := by
  induction jobs generalizing s with
  | nil => exact ordered
  | cons job rest ih => exact ih (ordered.give turn.head) (turn.tail ordered)

section Claims

open RedisJobQueue

variable (s : RedisStore P) (jobType : JobType) (workerId : String) (now : Time)
  (leaseSeconds : Int)

theorem claimLoop_of_noneLive {ids : List String} (none : ids.filter s.isPending = []) :
    claimLoop s jobType workerId now leaseSeconds ids = (Option.none, s.setPending jobType []) := by
  induction ids with
  | nil => rfl
  | cons id rest ih =>
    obtain ⟨here, later⟩ := List.forall_mem_cons.mp (List.filter_eq_nil_iff.mp none)
    have skipped := ih (List.filter_eq_nil_iff.mpr later)
    rw [claimLoop]
    split
    · exact skipped
    · next job stored =>
      have settled : job.status ≠ .pending := fun pending =>
        here (isPending_iff.mpr ⟨job, stored, pending⟩)
      rw [if_pos settled, skipped]

theorem claimLoop_of_live {ids tail : List String} {id : String}
    (first : ids.filter s.isPending = id :: tail) :
    ∃ job rest, s.jobs.get? id = some job ∧ rest.filter s.isPending = tail ∧
      (∀ k ∈ rest, k ∈ ids) ∧
      claimLoop s jobType workerId now leaseSeconds ids =
        if now < job.availableAt then
          (none, (s.setPending jobType rest).rpushPending jobType id)
        else
          (some (job.claimedBy workerId now leaseSeconds),
            (s.setPending jobType rest).write (job.claimedBy workerId now leaseSeconds)) := by
  induction ids with
  | nil => simp at first
  | cons head rest ih =>
    rw [List.filter_cons] at first
    split at first
    · next pending =>
      obtain ⟨rfl, same⟩ := List.cons.inj first
      obtain ⟨job, stored, status⟩ := isPending_iff.mp pending
      refine ⟨job, rest, stored, same, fun k member => List.mem_cons_of_mem _ member, ?_⟩
      have key : job.id = head := Table.key_of_get? stored
      rw [claimLoop, stored]
      simp only [status, ne_eq, not_true_eq_false, if_false, key]
    · next settled =>
      obtain ⟨job, kept, stored, same, fewer, ran⟩ := ih first
      refine ⟨job, kept, stored, same, fun k member => List.mem_cons_of_mem _ (fewer k member), ?_⟩
      rw [claimLoop]
      split
      · exact ran
      · next other present =>
        have skipped : other.status ≠ .pending := fun pending =>
          settled (isPending_iff.mpr ⟨other, present, pending⟩)
        rw [if_pos skipped, ran]

end Claims

end RedisStore

theorem eq_filter_of_sublist {α : Type*} [DecidableEq α] {l c : List α} (distinct : c.Nodup)
    (sub : l.Sublist c) : l = c.filter fun a => decide (a ∈ l) := by
  induction sub with
  | slnil => rfl
  | @cons l c a sub ih =>
    rw [List.nodup_cons] at distinct
    have absent : a ∉ l := fun member => distinct.1 (sub.subset member)
    rw [List.filter_cons_of_neg (by simpa using absent)]
    exact ih distinct.2
  | @cons_cons l c a sub ih =>
    rw [List.nodup_cons] at distinct
    rw [List.filter_cons_of_pos (by simp)]
    congr 1
    refine (ih distinct.2).trans (List.filter_congr fun b member => ?_)
    have other : b ≠ a := fun same => distinct.1 (same ▸ member)
    simp [other]

theorem eq_of_sublist_of_mem_iff {α : Type*} [DecidableEq α] {l l' c : List α} (distinct : c.Nodup)
    (left : l.Sublist c) (right : l'.Sublist c) (same : ∀ a, a ∈ l ↔ a ∈ l') : l = l' := by
  rw [eq_filter_of_sublist distinct left, eq_filter_of_sublist distinct right]
  exact List.filter_congr fun a _ => by rw [decide_eq_decide, same a]

namespace QueueTwins

open RedisStore

variable (hvals : List (JobEnvelope P) → List (JobEnvelope P))

def empty : QueueTwins P := ⟨Table.empty, RedisStore.empty⟩

/-- `new_id` does not repeat an identifier. -/
def fresh (s : QueueTwins P) : Move P → Bool
  | .enqueue id _ _ _ _ => (s.memory.get? id).isNone
  | .claim _ _ _ _ | .reap _ _ _ | .finish _ _ _ => true

def step (s : QueueTwins P) : TwinCall P → Option (QueueTwins P)
  | .operation m =>
    if s.fresh m then
      some ⟨((InMemoryJobQueue.queue P).perform s.memory m).2,
        ((RedisJobQueue.queue hvals).perform s.redis m).2⟩
    else none
  | .listDeadLetters _ => some s

/-- The two answers are the same, and a claim of the Redis backend returns nothing only when no
pending job of the type is available. -/
def AnswersAlike (s : QueueTwins P) : TwinCall P → Prop
  | .operation m =>
    ((RedisJobQueue.queue hvals).perform s.redis m).1 =
      ((InMemoryJobQueue.queue P).perform s.memory m).1 ∧
    ∀ jobType workerId now leaseSeconds, m = .claim jobType workerId now leaseSeconds →
      ((RedisJobQueue.queue hvals).perform s.redis m).1 = none →
      ∀ id job, s.redis.jobs.get? id = some job →
        (job.swept (some jobType) leaseExpiredError now).claimable jobType now = false
  | .listDeadLetters jobType =>
    RedisJobQueue.listDeadLetters s.redis jobType =
      .ok (InMemoryJobQueue.listDeadLetters s.memory jobType)

def created (s : QueueTwins P) : List String := s.memory.entries.map JobEnvelope.id

/-- The jobs whose leases a pass finds expired, in the order in which HVALS answers them, go
behind the pending and the dead jobs of their types. -/
def ReapsBehind (s : QueueTwins P) (jobType : Option JobType) (error : String) (now : Time) :
    Prop :=
  s.redis.Behind s.created (((hvals s.redis.jobs.entries).filter fun job =>
    job.due jobType now).map fun job => job.reaped error now)

def pendingJobs (q : InMemoryJobQueue P) (t : JobType) : List (JobEnvelope P) :=
  q.entries.filter fun job => decide (job.status = .pending) && decide (job.type = t)

def Unblocked (q : InMemoryJobQueue P) (t : JobType) (now : Time) : Prop :=
  ∀ job rest, pendingJobs q t = job :: rest → job.availableAt ≤ now ∨ rest = []

/-- The lists of the Redis backend stay in order of creation and no claim is blocked. -/
def Orderly (s : QueueTwins P) : TwinCall P → Prop
  | .operation (.enqueue _ _ _ _ _) => True
  | .operation (.claim jobType _ now _) =>
    s.ReapsBehind hvals (some jobType) leaseExpiredError now ∧
      Unblocked (InMemoryJobQueue.reapExpiredLeases s.memory (some jobType) now
        leaseExpiredError).2 jobType now
  | .operation (.reap jobType now error) => s.ReapsBehind hvals jobType error now
  | .operation (.finish handle verdict now) =>
    ∀ job, s.memory.get? handle.jobId = some job → job.status ≠ .deadLetter ∧
      ∀ error retryDelaySeconds, verdict = .reject error retryDelaySeconds →
        s.redis.Behind s.created [job.finished verdict now]
  | .listDeadLetters none =>
    (InMemoryJobQueue.listDeadLetters s.memory none).Pairwise fun first second =>
      JobType.members.idxOf first.type ≤ JobType.members.idxOf second.type
  | .listDeadLetters (some _) => True

structure InStep (s : QueueTwins P) : Prop where
  jobs : ∀ id, s.redis.jobs.get? id = s.memory.get? id
  ordered : s.redis.Ordered s.created

variable {hvals}

theorem InStep.stored {s : QueueTwins P} (inStep : s.InStep) {job : JobEnvelope P} :
    job ∈ s.memory.entries ↔ s.redis.jobs.get? job.id = some job := by
  rw [inStep.jobs]
  exact ⟨Table.get?_of_mem, Table.mem_of_get?⟩

theorem InStep.pending {s : QueueTwins P} (inStep : s.InStep) (t : JobType) :
    s.redis.live t = (pendingJobs s.memory t).map JobEnvelope.id := by
  refine eq_of_sublist_of_mem_iff s.memory.nodup (inStep.ordered.pending t)
    (List.filter_sublist.map _) fun id => ?_
  rw [inStep.ordered.mem_live, List.mem_map]
  constructor
  · rintro ⟨job, stored, pending, type⟩
    have key : job.id = id := Table.key_of_get? stored
    refine ⟨job, List.mem_filter.mpr ⟨inStep.stored.mpr (key ▸ stored), ?_⟩, key⟩
    simp [pending, type]
  · rintro ⟨job, member, rfl⟩
    obtain ⟨listed, both⟩ := List.mem_filter.mp member
    simp only [Bool.and_eq_true, decide_eq_true_eq] at both
    exact ⟨job, inStep.stored.mp listed, both⟩

theorem InStep.dead {s : QueueTwins P} (inStep : s.InStep) (t : JobType) :
    s.redis.dead t =
      (InMemoryJobQueue.listDeadLetters s.memory (some t)).map JobEnvelope.id := by
  refine eq_of_sublist_of_mem_iff s.memory.nodup (inStep.ordered.dead t)
    (List.filter_sublist.map _) fun id => ?_
  rw [inStep.ordered.died, List.mem_map]
  constructor
  · rintro ⟨job, stored, dead, type⟩
    have key : job.id = id := Table.key_of_get? stored
    refine ⟨job, List.mem_filter.mpr ⟨inStep.stored.mpr (key ▸ stored), ?_⟩, key⟩
    simp [dead, type]
  · rintro ⟨job, member, rfl⟩
    obtain ⟨listed, both⟩ := List.mem_filter.mp member
    simp only [Bool.and_eq_true, decide_eq_true_eq, Option.all_some] at both
    exact ⟨job, inStep.stored.mp listed, both⟩

theorem InStep.reads {s : QueueTwins P} (inStep : s.InStep) {jobs : List (JobEnvelope P)}
    (listed : ∀ job ∈ jobs, job ∈ s.memory.entries) :
    (jobs.map JobEnvelope.id).mapM (RedisJobQueue.read s.redis) = .ok jobs := by
  rw [RedisJobQueue.mapM_read, List.map_map]
  exact List.map_congr_left fun job member => inStep.stored.mp (listed job member)

theorem InStep.lists {s : QueueTwins P} (inStep : s.InStep) {jobType : Option JobType}
    (orderly : s.Orderly hvals (.listDeadLetters jobType)) :
    s.AnswersAlike hvals (.listDeadLetters jobType) := by
  have listed : ∀ t, ∀ job ∈ InMemoryJobQueue.listDeadLetters s.memory t,
      job ∈ s.memory.entries := fun t job member => List.mem_of_mem_filter member
  cases jobType with
  | some t =>
    simp only [AnswersAlike, RedisJobQueue.listDeadLetters, inStep.dead t]
    exact inStep.reads (listed (some t))
  | none =>
    have byType : JobType.members.flatMap s.redis.dead =
        (InMemoryJobQueue.listDeadLetters s.memory none).map JobEnvelope.id := by
      have grouped := flatMap_filter_of_pairwise (by decide)
        (fun job _ => DeadLetterHistory.mem_members (JobEnvelope.type job)) orderly
      rw [← grouped, List.map_flatMap]
      refine List.flatMap_congr fun t _ => ?_
      rw [inStep.dead t, InMemoryJobQueue.listDeadLetters, InMemoryJobQueue.listDeadLetters,
        List.filter_filter]
      congr 1
      exact List.filter_congr fun job _ => by simp [Bool.and_comm]
    simp only [AnswersAlike, RedisJobQueue.listDeadLetters, byType]
    exact inStep.reads (listed none)

theorem InStep.reap (order : ∀ jobs, (hvals jobs).Perm jobs) {s : QueueTwins P}
    (inStep : s.InStep) {jobType : Option JobType} {error : String} {now : Time}
    (behind : s.ReapsBehind hvals jobType error now) :
    InStep ⟨(InMemoryJobQueue.reapExpiredLeases s.memory jobType now error).2,
      (RedisJobQueue.reapExpiredLeases hvals s.redis jobType now error).2⟩ where
  jobs id := by
    rw [RedisJobQueue.get?_reap hvals order, InMemoryJobQueue.get?_reap, inStep.jobs]
  ordered := by
    have same : created ⟨(InMemoryJobQueue.reapExpiredLeases s.memory jobType now error).2,
        (RedisJobQueue.reapExpiredLeases hvals s.redis jobType now error).2⟩ = s.created := by
      simp [created, InMemoryJobQueue.reapExpiredLeases, Table.map]
    rw [same, RedisJobQueue.reap_gives]
    refine inStep.ordered.gives ⟨behind, RedisJobQueue.reaped_distinct order .., ?_, ?_⟩
    · intro job member
      obtain ⟨old, stored, running, rfl⟩ := RedisJobQueue.reaped_source order member
      exact ⟨old, by rwa [JobEnvelope.reaped_id], running, (JobEnvelope.reaped_type ..).symm⟩
    · intro job member
      obtain ⟨old, -, -, rfl⟩ := RedisJobQueue.reaped_source order member
      exact RedisJobQueue.reaped_given old error now

/-- The scan of `claim` after its pass. -/
def takeFirst (q : InMemoryJobQueue P) (jobType : JobType) (workerId : String) (now : Time)
    (leaseSeconds : Int) : Option (JobEnvelope P) × InMemoryJobQueue P :=
  match (pendingJobs q jobType).find? fun job => decide (job.availableAt ≤ now) with
  | none => (none, q)
  | some job =>
    (some (job.claimedBy workerId now leaseSeconds), q.put (job.claimedBy workerId now leaseSeconds))

theorem find?_claimable (q : InMemoryJobQueue P) (jobType : JobType) (now : Time) :
    (q.entries.find? fun job => job.claimable jobType now) =
      (pendingJobs q jobType).find? fun job => decide (job.availableAt ≤ now) := by
  rw [pendingJobs, List.find?_filter]
  congr 1
  funext job
  simp [JobEnvelope.claimable, Bool.and_comm]

theorem claim_eq_takeFirst (q : InMemoryJobQueue P) (jobType : JobType) (workerId : String)
    (now : Time) (leaseSeconds : Int) :
    InMemoryJobQueue.claim q jobType workerId now leaseSeconds =
      takeFirst (InMemoryJobQueue.reapExpiredLeases q (some jobType) now leaseExpiredError).2
        jobType workerId now leaseSeconds := by
  unfold InMemoryJobQueue.claim takeFirst
  exact find?_claimable _ jobType now ▸ rfl

theorem InStep.repend {s : QueueTwins P} (inStep : s.InStep) {redis : RedisStore P}
    (jobs : redis.jobs = s.redis.jobs) (dead : redis.dead = s.redis.dead)
    (fewer : ∀ t, ∀ id ∈ redis.pending t, id ∈ s.redis.pending t)
    (live : ∀ t, redis.live t = s.redis.live t) : InStep ⟨s.memory, redis⟩ where
  jobs id := jobs ▸ inStep.jobs id
  ordered := inStep.ordered.repend jobs dead fewer live

theorem InStep.write {s : QueueTwins P} (inStep : s.InStep) {old job : JobEnvelope P}
    (stored : s.memory.get? job.id = some old) (type : old.type = job.type)
    (alive : old.status ≠ .deadLetter) (settled : job.status ≠ .pending)
    (survives : job.status ≠ .deadLetter) : InStep ⟨s.memory.put job, s.redis.write job⟩ where
  jobs id := by
    rw [write_jobs, Table.get?_put, Table.get?_put, inStep.jobs]
  ordered := by
    rw [created, Table.keys_put stored]
    exact inStep.ordered.write ((inStep.jobs _).trans stored) type alive settled survives

theorem InStep.give {s : QueueTwins P} (inStep : s.InStep) {job : JobEnvelope P}
    (joins : s.redis.Joins (created ⟨s.memory.put job, s.redis.give job⟩) job)
    (grows : s.created.Sublist (created ⟨s.memory.put job, s.redis.give job⟩)) :
    InStep ⟨s.memory.put job, s.redis.give job⟩ where
  jobs id := by
    rw [give_jobs, Table.get?_put, Table.get?_put, inStep.jobs]
  ordered := (inStep.ordered.mono grows).give joins

/-- The scan and the loop take the same job, unless the first pending job is delayed and
another one stands behind it. -/
theorem InStep.take {s : QueueTwins P} (inStep : s.InStep) {jobType : JobType} {now : Time}
    (unblocked : Unblocked s.memory jobType now) (workerId : String) (leaseSeconds : Int) :
    let taken := takeFirst s.memory jobType workerId now leaseSeconds
    let popped := RedisJobQueue.claimLoop s.redis jobType workerId now leaseSeconds
      (s.redis.pending jobType)
    popped.1 = taken.1 ∧ InStep ⟨taken.2, popped.2⟩ := by
  have live := inStep.pending jobType
  intro taken popped
  cases queued : pendingJobs s.memory jobType with
  | nil =>
    rw [queued, List.map_nil] at live
    have looped : popped = (none, s.redis.setPending jobType []) :=
      claimLoop_of_noneLive _ _ _ _ _ live
    have scanned : taken = (none, s.memory) := by simp [taken, takeFirst, queued]
    rw [looped, scanned]
    refine ⟨rfl, inStep.repend rfl rfl (fun t id => mem_setPending (by simp)) fun t => ?_⟩
    rw [setPending_live]
    split
    · next same => rw [same, live, List.filter_nil]
    · rfl
  | cons job rest =>
    rw [queued, List.map_cons] at live
    have member : job ∈ pendingJobs s.memory jobType := queued ▸ List.mem_cons_self
    obtain ⟨listed, both⟩ := List.mem_filter.mp member
    simp only [Bool.and_eq_true, decide_eq_true_eq] at both
    obtain ⟨found, kept, stored, tail, fewer, ran⟩ :=
      claimLoop_of_live s.redis jobType workerId now leaseSeconds live
    rw [inStep.stored.mp listed] at stored
    obtain rfl := Option.some.inj stored
    by_cases delayed : now < job.availableAt
    · -- the only pending job goes to the end of a list without other live entries
      have alone : rest = [] :=
        (unblocked job rest queued).resolve_left (Int.not_le.mpr delayed)
      subst alone
      have looped : popped =
          (none, (s.redis.setPending jobType kept).rpushPending jobType job.id) :=
        ran.trans (if_pos delayed)
      have scanned : taken = (none, s.memory) := by
        simp [taken, takeFirst, queued, Int.not_le.mpr delayed]
      rw [looped, scanned]
      have appended : (s.redis.setPending jobType kept).rpushPending jobType job.id =
          s.redis.setPending jobType (kept ++ [job.id]) := by
        unfold rpushPending
        rw [setPending_self]
        simp only [setPending, RedisStore.mk.injEq, true_and, and_true]
        funext t
        split <;> rfl
      have here : job.id ∈ s.redis.pending jobType :=
        List.mem_of_mem_filter (live ▸ List.mem_cons_self : job.id ∈ s.redis.live jobType)
      have pending : s.redis.isPending job.id = true :=
        isPending_iff.mpr ⟨job, inStep.stored.mp listed, both.1⟩
      rw [appended]
      refine ⟨rfl, inStep.repend rfl rfl (fun t id => mem_setPending fun k inside => ?_)
        fun t => ?_⟩
      · rcases List.mem_append.mp inside with before | last
        · exact fewer k before
        · rw [List.mem_singleton.mp last]
          exact here
      · rw [setPending_live]
        split
        · next same =>
          rw [same, live, List.filter_append, tail]
          simp [pending]
        · rfl
    · have looped : popped = (some (job.claimedBy workerId now leaseSeconds),
          (s.redis.setPending jobType kept).write (job.claimedBy workerId now leaseSeconds)) :=
        ran.trans (if_neg delayed)
      have scanned : taken = (some (job.claimedBy workerId now leaseSeconds),
          s.memory.put (job.claimedBy workerId now leaseSeconds)) := by
        simp [taken, takeFirst, queued, Int.not_lt.mp delayed]
      rw [looped, scanned]
      have present : s.memory.get? (job.claimedBy workerId now leaseSeconds).id = some job :=
        Table.get?_of_mem listed
      have written : InStep ⟨s.memory.put (job.claimedBy workerId now leaseSeconds),
          s.redis.write (job.claimedBy workerId now leaseSeconds)⟩ :=
        inStep.write present rfl (by simp [both.1]) (by simp) (by simp)
      refine ⟨rfl, written.repend rfl rfl (fun t id => mem_setPending fewer) fun t => ?_⟩
      have settled : (job.claimedBy workerId now leaseSeconds).status ≠ .pending := by simp
      have shown : ∀ ids : List String,
          ids.filter (s.redis.write (job.claimedBy workerId now leaseSeconds)).isPending =
            (ids.filter s.redis.isPending).filter fun k =>
              decide (k ≠ (job.claimedBy workerId now leaseSeconds).id) :=
        fun ids => filter_isPending_of_notPending (write_jobs s.redis _) settled ids
      by_cases same : t = jobType
      · subst same
        have after : ((s.redis.setPending t kept).write
            (job.claimedBy workerId now leaseSeconds)).live t =
            kept.filter (s.redis.write (job.claimedBy workerId now leaseSeconds)).isPending := by
          simp only [RedisStore.live, write_pending, setPending_self]
          rfl
        have before : (s.redis.write (job.claimedBy workerId now leaseSeconds)).live t =
            (s.redis.live t).filter fun k => decide (k ≠ job.id) := shown (s.redis.pending t)
        rw [after, before, shown, tail, live, List.filter_cons_of_neg (by simp)]
        rfl
      · simp only [RedisStore.live, write_pending, setPending, if_neg same]
        rfl

theorem InStep.claim (order : ∀ jobs, (hvals jobs).Perm jobs) {s : QueueTwins P}
    (inStep : s.InStep) {jobType : JobType} {now : Time}
    (behind : s.ReapsBehind hvals (some jobType) leaseExpiredError now)
    (unblocked : Unblocked (InMemoryJobQueue.reapExpiredLeases s.memory (some jobType) now
      leaseExpiredError).2 jobType now) (workerId : String) (leaseSeconds : Int) :
    let scanned := InMemoryJobQueue.claim s.memory jobType workerId now leaseSeconds
    let popped := RedisJobQueue.claim hvals s.redis jobType workerId now leaseSeconds
    popped.1 = scanned.1 ∧ InStep ⟨scanned.2, popped.2⟩ := by
  simp only [claim_eq_takeFirst]
  exact (inStep.reap order behind).take unblocked workerId leaseSeconds

theorem unclaimable_of_none {q : InMemoryJobQueue P} {jobType : JobType} {workerId : String}
    {now : Time} {leaseSeconds : Int}
    (none : (InMemoryJobQueue.claim q jobType workerId now leaseSeconds).1 = none) {id : String}
    {job : JobEnvelope P} (stored : q.get? id = some job) :
    (job.swept (some jobType) leaseExpiredError now).claimable jobType now = false := by
  have swept : (InMemoryJobQueue.reapExpiredLeases q (some jobType) now leaseExpiredError).2.get?
      id = some (job.swept (some jobType) leaseExpiredError now) := by
    rw [InMemoryJobQueue.get?_reap, stored]
    rfl
  rw [InMemoryJobQueue.claim] at none
  split at none
  · next unfound =>
    simpa using List.find?_eq_none.mp unfound _ (Table.mem_of_get? swept)
  · cases none

theorem InStep.finish (order : ∀ jobs, (hvals jobs).Perm jobs) {s : QueueTwins P}
    (inStep : s.InStep) {handle : Handle} {verdict : Verdict} {now : Time}
    (orderly : s.Orderly hvals (.operation (.finish handle verdict now))) :
    let left := (InMemoryJobQueue.queue P).perform s.memory (.finish handle verdict now)
    let right := (RedisJobQueue.queue hvals).perform s.redis (.finish handle verdict now)
    right.1 = left.1 ∧ InStep ⟨left.2, right.2⟩ := by
  simp only [JobQueue.perform]
  cases stored : s.memory.get? handle.jobId with
  | none =>
    rw [(InMemoryJobQueue.lawful P).finish_none stored,
      (RedisJobQueue.lawful hvals order).finish_none ((inStep.jobs _).trans stored)]
    exact ⟨rfl, inStep⟩
  | some job =>
    obtain ⟨alive, returned⟩ := orderly job stored
    have key : job.id = handle.jobId := Table.key_of_get? stored
    have left := InMemoryJobQueue.finish_of_get? stored verdict now
    have right := RedisJobQueue.finish_of_get? ((inStep.jobs _).trans stored) verdict now
    simp only [InMemoryJobQueue.queue, RedisJobQueue.queue, left, right, true_and]
    have present : s.memory.get? (job.finished verdict now).id = some job := by
      rw [JobEnvelope.finished_id, key, stored]
    cases verdict with
    | ack =>
      exact inStep.write present rfl alive (fun moved => by cases moved) fun moved => by cases moved
    | fail error =>
      exact inStep.write present rfl alive (fun moved => by cases moved) fun moved => by cases moved
    | reject error retryDelaySeconds =>
      have same : created ⟨s.memory.put (job.finished (.reject error retryDelaySeconds) now),
          s.redis.give (job.finished (.reject error retryDelaySeconds) now)⟩ = s.created :=
        Table.keys_put present
      refine inStep.give ?_ (by rw [same])
      rw [same]
      refine (returned error retryDelaySeconds rfl).joins ?_ ?_ ?_
      · rw [inStep.jobs, present]
        rintro _ ⟨⟩
        exact (JobEnvelope.finished_type ..).symm
      · rw [inStep.jobs, present]
        rintro _ ⟨⟩
        exact alive
      · rw [JobEnvelope.finished, JobEnvelope.rejected, JobEnvelope.returned_status]
        split <;> simp

theorem InStep.enqueue (hvals : List (JobEnvelope P) → List (JobEnvelope P)) {s : QueueTwins P}
    (inStep : s.InStep) {id : String} {type : JobType} {payload : P} {now : Time}
    {maxAttempts : Nat} (fresh : s.memory.get? id = none) :
    let left := (InMemoryJobQueue.queue P).perform s.memory (.enqueue id type payload now maxAttempts)
    let right := (RedisJobQueue.queue hvals).perform s.redis
      (.enqueue id type payload now maxAttempts)
    right.1 = left.1 ∧ InStep ⟨left.2, right.2⟩ := by
  simp only [JobQueue.perform, InMemoryJobQueue.queue, RedisJobQueue.queue,
    InMemoryJobQueue.enqueue, RedisJobQueue.enqueue]
  by_cases positive : 1 ≤ maxAttempts
  · simp only [dif_pos positive, true_and]
    have grown : created ⟨s.memory.put (JobEnvelope.create id type payload now maxAttempts positive),
        s.redis.give (JobEnvelope.create id type payload now maxAttempts positive)⟩ =
        s.created ++ [id] := by
      rw [created, Table.entries_put_new fresh, List.map_append]
      rfl
    refine inStep.give ?_ (grown ▸ List.sublist_append_left _ _)
    rw [grown]
    have unknown : s.redis.jobs.get? id = none := (inStep.jobs id).trans fresh
    refine ⟨?_, ?_, Or.inl rfl, fun _ listed => ?_, fun _ => ?_, fun dead => by cases dead⟩
    · rw [JobEnvelope.create, unknown]
      simp
    · rw [JobEnvelope.create, unknown]
      simp
    · obtain ⟨old, stored, -⟩ := inStep.ordered.typed type id listed
      rw [unknown] at stored
      cases stored
    · exact (inStep.ordered.pending type).append (List.Sublist.refl [id])
  · simp only [dif_neg positive, true_and]
    exact inStep

theorem InStep.call (order : ∀ jobs, (hvals jobs).Perm jobs) {s s' : QueueTwins P}
    {c : TwinCall P} (inStep : s.InStep) (orderly : s.Orderly hvals c)
    (moved : step hvals s c = some s') : s'.InStep ∧ s.AnswersAlike hvals c := by
  cases c with
  | listDeadLetters jobType =>
    obtain rfl : s = s' := Option.some.inj moved
    exact ⟨inStep, inStep.lists orderly⟩
  | operation m =>
    rw [step] at moved
    split_ifs at moved with fresh
    obtain rfl := Option.some.inj moved
    have other : (∀ jobType workerId now leaseSeconds,
        m ≠ .claim jobType workerId now leaseSeconds) →
        ((RedisJobQueue.queue hvals).perform s.redis m).1 =
          ((InMemoryJobQueue.queue P).perform s.memory m).1 →
        s.AnswersAlike hvals (.operation m) := fun notClaim same =>
      ⟨same, fun jobType workerId now leaseSeconds isClaim =>
        absurd isClaim (notClaim jobType workerId now leaseSeconds)⟩
    cases m with
    | enqueue id type payload now maxAttempts =>
      obtain ⟨same, kept⟩ := inStep.enqueue hvals (Option.isNone_iff_eq_none.mp fresh)
      exact ⟨kept, other (by simp) same⟩
    | claim jobType workerId now leaseSeconds =>
      obtain ⟨same, kept⟩ := inStep.claim order orderly.1 orderly.2 workerId leaseSeconds
      refine ⟨kept, same, ?_⟩
      rintro _ _ _ _ ⟨⟩ nothing id job stored
      rw [inStep.jobs] at stored
      exact unclaimable_of_none (same ▸ nothing) stored
    | reap jobType now error => exact ⟨inStep.reap order orderly, other (by simp) rfl⟩
    | finish handle verdict now =>
      obtain ⟨same, kept⟩ := inStep.finish order orderly
      exact ⟨kept, other (by simp) same⟩

theorem inStep_empty : (empty : QueueTwins P).InStep where
  jobs _ := rfl
  ordered :=
    { pending := fun _ => List.Sublist.refl _
      listed := fun _ _ stored => by cases stored
      typed := fun _ _ member => absurd member List.not_mem_nil
      dead := fun _ => List.Sublist.refl _
      died := fun _ id => by simp [empty, RedisStore.empty] }

/-- Executed without interleaving, both backends give the same answers along every orderly run. -/
theorem answers_alike (hvals : List (JobEnvelope P) → List (JobEnvelope P))
    (order : ∀ jobs, (hvals jobs).Perm jobs) (schedule : List (TwinCall P))
    (orderly : Machine.Conforms (step hvals) (Orderly hvals) empty schedule) :
    Machine.Conforms (step hvals) (AnswersAlike hvals) empty schedule := by
  refine Machine.Along.of_invariant (I := InStep) ?_ inStep_empty orderly
  exact fun s c s' inStep here moved => inStep.call order here moved

/-- A rejected job waits in front of a job that is available. -/
def delayedHead : List (TwinCall String) :=
  [.operation (.enqueue "first" .runExecution "run_1" 0 3),
    .operation (.claim .runExecution "worker" 0 300),
    .operation (.finish ⟨"first", "worker", 1⟩ (.reject "outage" 30) 0),
    .operation (.enqueue "second" .runExecution "run_2" 0 3)]

/-- The Redis backend then answers nothing where the in-memory queue hands out the second job. -/
theorem delayed_head_blocks : ¬ ∀ schedule c t,
    Machine.run (step fun jobs : List (JobEnvelope String) => jobs) empty schedule = some t →
      t.AnswersAlike (fun jobs => jobs) c := by
  intro alike
  have answers := (alike delayedHead (.operation (.claim .runExecution "worker" 0 300)) _
    (Machine.run_final _ _ _ rfl)).1
  revert answers
  decide

theorem answers_alike_single :
    Machine.Conforms (step fun jobs : List (JobEnvelope String) => jobs)
      (AnswersAlike fun jobs => jobs) empty
      [.operation (.enqueue "first" .runExecution "run_1" 0 3),
        .operation (.claim .runExecution "worker" 0 300)] := by
  refine answers_alike (fun jobs => jobs) (fun jobs => List.Perm.refl jobs) _ ?_
  refine Machine.Along.cons rfl trivial (Machine.Along.cons rfl ⟨⟨?_, ?_, ?_⟩, ?_⟩ trivial)
  · exact fun job member => absurd member List.not_mem_nil
  · intro t
    cases t <;> decide
  · intro t
    cases t <;> decide
  · intro job rest queued
    obtain ⟨rfl, rfl⟩ := List.cons.inj queued
    exact Or.inr rfl

end QueueTwins

end Taroai.Workers
