import Mathlib.Data.Set.Basic
import Taroai.Workers.MemoryQueue
import Taroai.Workers.RedisQueue
import Taroai.Workers.WorkerConduct
import Taroai.Workflow.Safety

/-! Dead letters of the reaper. Every run job whose lease is past and whose attempts are used up has
to reach a worker that finishes its run. The worker that calls `reap_expired_leases` gets the job
back and does; the pass that `claim` makes by itself, at a later clock reading, gives it to nobody. -/

namespace Taroai.Workers.Site

open AgentWorker

variable {σ : Type} {Q : JobQueue RunExecutionJob σ} {settings : WorkerSettings}
  {specs : String → Workflow.WorkflowSpec} {s t : Site σ}

def Holds (s : Site σ) (worker jobId : String) : Prop :=
  ∃ busy, s.workers worker = some busy ∧ ∃ letter ∈ busy.hands.dead, letter.jobId = jobId

def Accounted (s : Site σ) : Prop :=
  ∀ id ∈ s.expired, id ∈ s.finished ∨ ∃ worker, s.Holds worker id

/-- The pass of `claim` finds no job to give up, and the state of an ended run has ended. -/
def Allows (Q : JobQueue RunExecutionJob σ) (s : Site σ) (hands : Hands) :
    (c : WorkerCall) → c.Choice → Prop
  | .claim, now => s.doomed Q now = ∅
  | .restoreState run, state =>
    (∃ letter ∈ hands.dead, letter.run = run ∧ letter.ended = true) → state.status.terminal = true
  | _, _ => True

def Careful (Q : JobQueue RunExecutionJob σ) (s : Site σ) : Label → Prop
  | .proceed worker choose => ∀ hands,
    (∀ c next, s.workers worker = some ⟨hands, .call c next⟩ → s.Allows Q hands c (choose c)) ∧
    (s.workers worker = some ⟨hands, .raise⟩ → hands.dead = [])
  | .stop worker => ∀ busy, s.workers worker = some busy → busy.hands.dead = []
  | _ => True

def expires (Q : JobQueue RunExecutionJob σ) (s : Site σ) : (c : WorkerCall) → c.Choice → Set String
  | .reapExpiredLeases, now => s.doomed Q now
  | .claim, now => s.doomed Q now
  | _, _ => ∅

section Calls

variable {worker : String} {c : WorkerCall} {choice : c.Choice} {a : c.Answer}

@[simp] theorem setStatus_queue (run : RunRef) (status : RunStatus) :
    (s.setStatus run status).queue = s.queue := by cases run <;> rfl

structure Frame (s t : Site σ) (more : Set String) : Prop where
  workers : t.workers = s.workers
  finished : t.finished = s.finished
  fresh : t.fresh = s.fresh
  expired : t.expired = s.expired ∪ more

theorem Frame.same (workers : t.workers = s.workers) (finished : t.finished = s.finished)
    (fresh : t.fresh = s.fresh) (expired : t.expired = s.expired) : Frame s t ∅ where
  workers := workers
  finished := finished
  fresh := fresh
  expired := by rw [expired, Set.union_empty]

theorem report_frame (jobId : String) (verdict : Verdict) (now : Time) :
    Frame s (s.report Q jobId verdict now).2 ∅ := by
  unfold report
  split <;> exact .same rfl rfl rfl rfl

theorem respond_frame (responded : s.respond Q settings worker c choice = some (a, t)) :
    Frame s t (s.expires Q c choice) := by
  cases c with
  | reapExpiredLeases =>
    obtain ⟨rfl, rfl⟩ := Prod.mk.inj (Option.some.inj responded)
    exact ⟨rfl, rfl, rfl, rfl⟩
  | claim =>
    obtain ⟨rfl, rfl⟩ := Prod.mk.inj (Option.some.inj responded)
    exact ⟨rfl, rfl, rfl, rfl⟩
  | ack jobId =>
    obtain ⟨rfl, rfl⟩ := Prod.mk.inj (Option.some.inj responded)
    exact report_frame jobId .ack choice
  | reject jobId =>
    obtain ⟨error, now⟩ := choice
    obtain ⟨rfl, rfl⟩ := Prod.mk.inj (Option.some.inj responded)
    exact report_frame jobId _ now
  | enqueue run =>
    obtain ⟨id, now⟩ := choice
    simp only [respond] at responded
    split at responded
    · cases responded
    · split at responded <;>
        obtain ⟨rfl, rfl⟩ := Prod.mk.inj (Option.some.inj responded) <;>
        exact .same rfl rfl rfl rfl
  | refreshModelRuntime | getRun run | restoreState run =>
    obtain ⟨-, rfl⟩ := Prod.mk.inj (Option.some.inj responded)
    exact .same rfl rfl rfl rfl
  | markRunning run | workflowTask run =>
    cases run <;>
      obtain ⟨-, rfl⟩ := Prod.mk.inj (Option.some.inj responded) <;>
      exact .same rfl rfl rfl rfl
  | executeRun run =>
    obtain ⟨status, outcome⟩ := choice
    simp only [respond] at responded
    cases outcome with
    | none =>
      obtain ⟨-, rfl⟩ := Prod.mk.inj (Option.some.inj responded)
      exact .same rfl rfl rfl rfl
    | some state =>
      simp only at responded
      split at responded
      · obtain ⟨-, rfl⟩ := Prod.mk.inj (Option.some.inj responded)
        exact .same rfl rfl rfl rfl
      · obtain ⟨-, rfl⟩ := Prod.mk.inj (Option.some.inj responded)
        cases run <;> exact .same rfl rfl rfl rfl
  | failRun run =>
    cases choice with
    | none =>
      obtain ⟨-, rfl⟩ := Prod.mk.inj (Option.some.inj responded)
      exact .same rfl rfl rfl rfl
    | some state =>
      obtain ⟨-, rfl⟩ := Prod.mk.inj (Option.some.inj responded)
      cases run <;> exact .same rfl rfl rfl rfl
  | updateRunStatus run status =>
    obtain ⟨-, rfl⟩ := Prod.mk.inj (Option.some.inj responded)
    cases run <;> exact .same rfl rfl rfl rfl
  | plan workflow c =>
    obtain ⟨-, rfl⟩ := Prod.mk.inj (Option.some.inj responded)
    exact .same rfl rfl rfl rfl
  | thread thread c =>
    obtain ⟨-, rfl⟩ := Prod.mk.inj (Option.some.inj responded)
    exact .same rfl rfl rfl rfl

theorem respond_expected (reporting : Q.Reporting) {strict : Bool} {hands : Hands}
    (allows : strict = true → s.Allows Q hands c choice)
    (responded : s.respond Q settings worker c choice = some (a, t)) : Expected strict hands c a := by
  cases c with
  | restoreState run =>
    obtain ⟨rfl, -⟩ := Prod.mk.inj (Option.some.inj responded)
    exact fun strictly ended => allows strictly ended
  | failRun run =>
    cases choice with
    | none =>
      obtain ⟨rfl, -⟩ := Prod.mk.inj (Option.some.inj responded)
      exact trivial
    | some state =>
      obtain ⟨rfl, -⟩ := Prod.mk.inj (Option.some.inj responded)
      exact rfl
  | enqueue run =>
    obtain ⟨id, now⟩ := choice
    obtain ⟨job, queue, accepted, -⟩ := reporting.accepts s.queue id .runExecution ⟨run⟩ now
      settings.continuationMaxAttempts settings.continuationMaxAttempts_pos
    simp only [respond, accepted] at responded
    split at responded
    · cases responded
    · obtain ⟨rfl, -⟩ := Prod.mk.inj (Option.some.inj responded)
      exact trivial
  | reapExpiredLeases | claim | ack jobId | reject jobId | refreshModelRuntime | getRun run
  | markRunning run | executeRun run | updateRunStatus run status | workflowTask run
  | plan workflow c | thread thread c => exact trivial

theorem expired_in_hands (reporting : Q.Reporting) {hands : Hands}
    (careful : c = .claim → s.expires Q c choice = ∅)
    (responded : s.respond Q settings worker c choice = some (a, t)) :
    ∀ id ∈ s.expires Q c choice, ∃ letter ∈ (hands.next c a).dead, letter.jobId = id := by
  intro id gone
  cases c with
  | reapExpiredLeases =>
    obtain ⟨rfl, -⟩ := Prod.mk.inj (Option.some.inj responded)
    obtain ⟨job, stored, type, past, spent⟩ := gone
    have due : job.due (some .runExecution) choice = true :=
      JobEnvelope.due_iff.mpr ⟨by rintro _ ⟨⟩; exact type, past⟩
    obtain ⟨key, returned⟩ := @JobQueue.Reporting.reaps _ _ _ reporting s.queue id job
      (some .runExecution) choice leaseExpiredError stored due
    have dead : (job.reaped leaseExpiredError choice).status = .deadLetter := by
      rw [JobEnvelope.reaped_status, if_neg spent]
    have listed : job.reaped leaseExpiredError choice ∈
        (Q.reapExpiredLeases s.queue (some .runExecution) choice leaseExpiredError).1.filter
          fun job => job.status = .deadLetter :=
      List.mem_filter.mpr ⟨returned, decide_eq_true dead⟩
    exact ⟨_, List.mem_map_of_mem listed, (JobEnvelope.reaped_id ..).trans key⟩
  | claim =>
    rw [careful rfl] at gone
    exact gone.elim
  | ack jobId | reject jobId | enqueue run | refreshModelRuntime | getRun run
  | markRunning run | executeRun run | restoreState run | failRun run | updateRunStatus run status
  | workflowTask run | plan workflow c | thread thread c => exact gone.elim

theorem held_or_finished {hands : Hands} (legal : (conduct true).legal hands c) (a : c.Answer)
    {letter : DeadLetter} (member : letter ∈ hands.dead) :
    letter.jobId ∈ hands.finishes c ∨
      ∃ after ∈ (hands.next c a).dead, after.jobId = letter.jobId := by
  have same : (hands.next c a).dead = hands.dead →
      ∃ after ∈ (hands.next c a).dead, after.jobId = letter.jobId := by
    intro unchanged
    exact ⟨letter, by rw [unchanged]; exact member, rfl⟩
  have marked : ∀ run, ∃ after ∈ (hands.endRun run).dead, after.jobId = letter.jobId := by
    intro run
    refine ⟨_, List.mem_map_of_mem member, ?_⟩
    split <;> rfl
  cases c with
  | reapExpiredLeases =>
    rw [legal.1] at member
    cases member
  | reject jobId =>
    cases a with
    | none => exact Or.inr (same rfl)
    | some job =>
      refine Or.inr ⟨letter, ?_, rfl⟩
      change letter ∈ (if job.status = .deadLetter then _ else _)
      split
      · exact List.mem_append_left _ member
      · exact member
  | getRun run =>
    cases a with
    | none => exact Or.inr (same rfl)
    | some status =>
      refine Or.inr ?_
      change ∃ after ∈ (if status.terminal = true then hands.endRun run else hands).dead, _
      split
      · exact marked run
      · exact ⟨letter, member, rfl⟩
  | failRun run =>
    cases a with
    | none => exact Or.inr (same rfl)
    | some state => exact Or.inr (marked run)
  | workflowTask run =>
    by_cases done : letter.run = run ∧ letter.ended = true
    · exact Or.inl (List.mem_map_of_mem (List.mem_filter.mpr ⟨member, decide_eq_true done⟩))
    · exact Or.inr ⟨letter, Hands.mem_drop.mpr ⟨member, done⟩, rfl⟩
  | claim | enqueue run | executeRun run => cases a <;> exact Or.inr (same rfl)
  | ack jobId | refreshModelRuntime | markRunning run | restoreState run
  | updateRunStatus run status => exact Or.inr (same rfl)
  | plan workflow c => cases c <;> exact Or.inr (same rfl)
  | thread thread c =>
    cases c
    case createQueuedThreadRunIfAbsent trigger =>
      rcases a with _ | ⟨run, _ | _⟩ <;> exact Or.inr (same rfl)
    all_goals exact Or.inr (same rfl)

end Calls

structure Tended (s : Site σ) : Prop where
  conducted : ∀ worker busy, s.workers worker = some busy →
    busy.rest.wp (conduct true) (fun _ hands => Clear true hands) (fun hands => hands.handing = [])
      busy.hands
  accounted : s.Accounted

structure Keeps (s t : Site σ) : Prop where
  held : ∀ worker id, s.Holds worker id → id ∈ t.finished ∨ t.Holds worker id
  finished : ∀ id ∈ s.finished, id ∈ t.finished

theorem Keeps.refl (s : Site σ) : Keeps s s := ⟨fun _ _ held => Or.inr held, fun _ done => done⟩

theorem Keeps.trans {u : Site σ} (first : Keeps s t) (next : Keeps t u) : Keeps s u where
  held worker id held := by
    rcases first.held worker id held with done | still
    · exact Or.inl (next.finished id done)
    · exact next.held worker id still
  finished id done := next.finished id (first.finished id done)

theorem Tended.frame (tended : Tended s) (workers : t.workers = s.workers)
    (expired : t.expired = s.expired) (finished : t.finished = s.finished) :
    Tended t ∧ Keeps s t := by
  have holds : ∀ worker id, t.Holds worker id ↔ s.Holds worker id := by
    intro worker id
    simp only [Holds, workers]
  refine ⟨⟨?_, ?_⟩, ?_, ?_⟩
  · rw [workers]
    exact tended.conducted
  · intro id gone
    rw [expired] at gone
    simp only [finished, holds]
    exact tended.accounted id gone
  · exact fun worker id held => Or.inr ((holds worker id).mpr held)
  · rw [finished]
    exact fun _ done => done

theorem setWorker_workers (worker other : String) (busy : Option Busy) :
    (s.setWorker worker busy).workers other = if other = worker then busy else s.workers other :=
  Function.update_apply ..

theorem Tended.setWorker (tended : Tended s) {worker : String} {busy : Option Busy}
    (conducts : ∀ begun, busy = some begun →
      begun.rest.wp (conduct true) (fun _ hands => Clear true hands)
        (fun hands => hands.handing = []) begun.hands)
    (empty : ∀ before, s.workers worker = some before → before.hands.dead = []) :
    Tended (s.setWorker worker busy) ∧ Keeps s (s.setWorker worker busy) := by
  have holds : ∀ other id, s.Holds other id → (s.setWorker worker busy).Holds other id := by
    rintro other id ⟨before, held, letter, member, key⟩
    refine ⟨before, ?_, letter, member, key⟩
    rw [setWorker_workers, if_neg]
    · exact held
    · rintro rfl
      rw [empty before held] at member
      cases member
  refine ⟨⟨?_, ?_⟩, fun other id held => Or.inr (holds other id held), fun _ done => done⟩
  · intro other begun held
    rw [setWorker_workers] at held
    split at held
    · exact conducts begun held
    · exact tended.conducted other begun held
  · intro id gone
    exact (tended.accounted id gone).imp_right fun ⟨other, held⟩ => ⟨other, holds other id held⟩

theorem tended_proceed (reporting : Q.Reporting) (tended : Tended s) {worker : String}
    {choose : (c : WorkerCall) → c.Choice} (careful : s.Careful Q (.proceed worker choose))
    (moved : s.proceed Q settings worker choose = some t) : Tended t ∧ Keeps s t := by
  unfold proceed at moved
  cases here : s.workers worker with
  | none => simp [here] at moved
  | some busy =>
    obtain ⟨hands, rest⟩ := busy
    have conducts := tended.conducted worker _ here
    have only : ∀ before, s.workers worker = some before → before = ⟨hands, rest⟩ := by
      intro before held
      exact Option.some.inj (held.symm.trans here)
    cases rest with
    | pure value =>
      simp only [here, Option.some.injEq] at moved
      subst moved
      refine tended.setWorker (by rintro _ ⟨⟩) fun before held => ?_
      rw [only before held]
      refine List.eq_nil_iff_forall_not_mem.mpr fun letter member => ?_
      rcases conducts.owing letter member with ⟨-, lax⟩ | listed
      · cases lax
      · cases listed
    | raise =>
      simp only [here, Option.some.injEq] at moved
      subst moved
      refine tended.setWorker (by rintro _ ⟨⟩) fun before held => ?_
      rw [only before held]
      exact (careful hands).2 here
    | call c next =>
      simp only [here] at moved
      cases responded : s.respond Q settings worker c (choose c) with
      | none => simp [responded] at moved
      | some answered =>
        obtain ⟨a, u⟩ := answered
        simp only [responded, Option.some.injEq] at moved
        subst moved
        have allows := (careful hands).1 c next here
        have frame := respond_frame responded
        have expected : Expected true hands c a :=
          respond_expected reporting (fun _ => allows) responded
        have gone : ∀ id ∈ s.expires Q c (choose c), ∃ letter ∈ (hands.next c a).dead,
            letter.jobId = id :=
          expired_in_hands reporting (by rintro rfl; exact allows) responded
        have keeps : Keeps s { u.setWorker worker (some ⟨hands.next c a, next a⟩) with
            finished := hands.finishes c ++ s.finished
            fresh := (s.fresh \ executed c a) ∪ created c a } := by
          refine ⟨?_, fun id done => List.mem_append_right _ done⟩
          rintro other id ⟨before, held, letter, member, rfl⟩
          by_cases same : other = worker
          · subst same
            rw [only before held] at member
            rcases held_or_finished conducts.1 a member with done | ⟨after, still, key⟩
            · exact Or.inl (List.mem_append_left _ done)
            · exact Or.inr ⟨_, (setWorker_workers ..).trans (if_pos rfl), after, still, key⟩
          · refine Or.inr ⟨before, ?_, letter, member, rfl⟩
            rw [← frame.workers] at held
            exact (setWorker_workers ..).trans ((if_neg same).trans held)
        refine ⟨⟨?_, ?_⟩, keeps⟩
        · intro other after held
          have held' := (setWorker_workers worker other _).symm.trans held
          split at held'
          · obtain rfl := Option.some.inj held'
            exact conducts.2 a _ ⟨rfl, expected⟩
          · rw [frame.workers] at held'
            exact tended.conducted other after held'
        · intro id past
          have past' : id ∈ s.expired ∪ s.expires Q c (choose c) := by
            rw [← frame.expired]
            exact past
          rcases past' with before | now
          · rcases tended.accounted id before with done | ⟨other, held⟩
            · exact Or.inl (keeps.finished id done)
            · exact (keeps.held other id held).imp_right fun still => ⟨other, still⟩
          · obtain ⟨letter, member, key⟩ := gone id now
            exact Or.inr ⟨worker, _, (setWorker_workers ..).trans (if_pos rfl), letter, member, key⟩

theorem tended_start (tended : Tended s) {worker : String} {task : WorkerTask Unit}
    (conducts : task.wp (conduct true) (fun _ hands => Clear true hands)
      (fun hands => hands.handing = []) {})
    (moved : s.start worker task = some t) : Tended t ∧ Keeps s t := by
  unfold start at moved
  cases here : s.workers worker with
  | none =>
    simp only [here, Option.some.injEq] at moved
    subst moved
    refine tended.setWorker ?_ fun before held => ?_
    · rintro begun same
      cases same
      exact conducts
    · rw [here] at held
      cases held
  | some busy => simp [here] at moved

theorem tended_act (reporting : Q.Reporting) (tended : Tended s) {label : Label}
    (careful : s.Careful Q label) (moved : s.act Q settings specs label = some t) :
    Tended t ∧ Keeps s t := by
  cases label with
  | poll worker => exact tended_start tended (wp_processNext specs) moved
  | continueThread worker thread => exact tended_start tended (wp_continueThread_start _) moved
  | proceed worker choose => exact tended_proceed reporting tended careful moved
  | stop worker =>
    obtain rfl := Option.some.inj moved
    exact tended.setWorker (by rintro _ ⟨⟩) careful
  | enqueue id type payload now maxAttempts =>
    simp only [act] at moved
    split at moved
    · cases moved
    · split at moved <;> obtain rfl := Option.some.inj moved <;>
        exact tended.frame rfl rfl rfl
  | otherClaim type workerId now leaseSeconds =>
    simp only [act] at moved
    split at moved
    · cases moved
    · obtain rfl := Option.some.inj moved
      exact tended.frame rfl rfl rfl
  | otherReport jobId verdict now =>
    simp only [act] at moved
    split at moved
    · cases moved
    · obtain rfl := Option.some.inj moved
      have frame := report_frame (Q := Q) (s := s) jobId verdict now
      exact tended.frame frame.workers (frame.expired.trans (Set.union_empty _)) frame.finished
  | workflow workflow plan =>
    simp only [act] at moved
    split at moved
    · obtain rfl := Option.some.inj moved
      exact tended.frame rfl rfl rfl
    · cases moved
  | chat thread store =>
    simp only [act] at moved
    split at moved
    · obtain rfl := Option.some.inj moved
      exact tended.frame rfl rfl rfl
    · cases moved
  | plain id status =>
    obtain rfl := Option.some.inj moved
    exact tended.frame rfl rfl rfl

theorem tended_step (reporting : Q.Reporting) (tended : Tended s) {label : Label}
    (careful : s.Careful Q label) (moved : s.step Q settings specs label = some t) :
    Tended t ∧ Keeps s t := by
  obtain ⟨u, acted, rfl⟩ := Option.map_eq_some_iff.mp moved
  obtain ⟨tended', keeps⟩ := tended_act reporting tended careful acted
  obtain ⟨settled, same⟩ := tended'.frame (t := u.settle) rfl rfl rfl
  exact ⟨settled, keeps.trans same⟩

theorem careful_of_allows {busy : Busy} {worker : String} {choose : (c : WorkerCall) → c.Choice}
    (here : s.workers worker = some busy) (returns : busy.rest ≠ .raise)
    (allows : ∀ c next, busy.rest = .call c next → s.Allows Q busy.hands c (choose c)) :
    s.Careful Q (.proceed worker choose) := by
  intro hands
  constructor
  · intro c next held
    obtain rfl := Option.some.inj (here.symm.trans held)
    exact allows c next rfl
  · intro held
    obtain rfl := Option.some.inj (here.symm.trans held)
    exact absurd rfl returns

structure Idle (s : Site σ) : Prop where
  workers : ∀ worker, s.workers worker = none
  expired : s.expired = ∅
  fresh : s.fresh = ∅

theorem Idle.tended (idle : s.Idle) : Tended s where
  conducted worker busy held := by
    rw [idle.workers worker] at held
    cases held
  accounted id gone := by
    rw [idle.expired] at gone
    exact gone.elim

/-- In every state each job that ran out is finished or in hand, and a worker that is back at its
poll has finished what it had in hand. -/
structure Delivers (Q : JobQueue RunExecutionJob σ) (settings : WorkerSettings)
    (specs : String → Workflow.WorkflowSpec) (s : Site σ) : Prop where
  accounted : s.Accounted
  finishes : ∀ worker id, s.Holds worker id → ∀ later t,
    Machine.Conforms (step Q settings specs) (Careful Q) s later →
    Machine.run (step Q settings specs) s later = some t → t.workers worker = none →
    id ∈ t.finished

theorem delivers_run (reporting : Q.Reporting) (idle : s.Idle) {schedule : List Label}
    (careful : Machine.Conforms (step Q settings specs) (Careful Q) s schedule)
    (ran : Machine.run (step Q settings specs) s schedule = some t) :
    Delivers Q settings specs t := by
  have tended : Tended t := Machine.invariant_conforms
    (fun _ _ _ tended here moved => (tended_step reporting tended here moved).1) idle.tended
    careful ran
  refine ⟨tended.accounted, fun worker id held later u careful' ran' back => ?_⟩
  have kept : Tended u ∧ Keeps t u := Machine.invariant_conforms (I := fun u => Tended u ∧ Keeps t u)
    (fun _ _ _ both here moved => by
      obtain ⟨tended', keeps⟩ := tended_step reporting both.1 here moved
      exact ⟨tended', both.2.trans keeps⟩) ⟨tended, .refl t⟩ careful' ran'
  rcases kept.2.held worker id held with done | ⟨busy, still, -⟩
  · exact done
  · rw [back] at still
    cases still

def vacant : Site (InMemoryJobQueue RunExecutionJob) where
  queue := Table.empty
  plans _ := .created Workflow.WorkflowStore.listed
  threads _ := {}
  plain _ := .queued
  workers _ := none
  expired := ∅
  finished := []
  fresh := ∅

theorem vacant_idle : vacant.Idle := ⟨fun _ => rfl, rfl, rfl⟩

def moment (now : Time) : (c : WorkerCall) → c.Choice
  | .reapExpiredLeases | .claim | .ack _ => now
  | .reject _ => ("the agent raised", now)
  | .enqueue _ => ("job_2", now)
  | .refreshModelRuntime => true
  | .executeRun _ => (.succeeded, some { status := .succeeded })
  | .restoreState _ => { status := .running }
  | .failRun _ => some { status := .failed }
  | .plan _ c =>
    match c with
    | .taskForChildRun _ => none
    | .workflowStatus => .running
    | .listTasks => []
    | .createChildRun _ => 0
    | .synthesis => true
    | .succeedTask _ _ | .endTask _ _ | .linkTask _ _ | .cancelSibling _ | .setStatus _ _ => ()
  | .thread _ c =>
    match c with
    | .getThread | .resolveSelection => true
    | .steeringAvailable => false
    | .getActiveRun | .claimNextQueuedMessage => none
    | .appendMessage _ _ => 0
    | .listPendingSteering => []
    | .createQueuedThreadRunIfAbsent _ => some (⟨0, .queued, 0⟩, true)
    | .updateMessage _ _ | .updateKind _ _ _ | .deleteMessage _ => ()
  | .getRun _ | .markRunning _ | .updateRunStatus _ _ | .workflowTask _ => ()

/-- A worker dies with the last attempt of a job, whose lease goes on for 300 seconds. -/
def died : List Label :=
  [.enqueue "job_1" .runExecution ⟨.plain 0⟩ 0 1, .poll "worker_1",
    .proceed "worker_1" (moment 0), .proceed "worker_1" (moment 0), .stop "worker_1",
    .poll "worker_2"]

def reapedInTime : List Label :=
  died ++ List.replicate 6 (.proceed "worker_2" (moment (seconds 300)))

/-- The lease ends between the pass of the worker and the pass of its claim. -/
def reapedTooSoon : List Label :=
  died ++ [.proceed "worker_2" (moment (seconds 300 - 1)),
    .proceed "worker_2" (moment (seconds 300)), .proceed "worker_2" (moment (seconds 300))]

theorem reapedTooSoon_at_rest (worker : String) :
    (Machine.final (step (InMemoryJobQueue.queue RunExecutionJob) {}
      fun _ => Workflow.WorkflowStore.twoSteps) vacant reapedTooSoon rfl).workers worker = none := by
  by_cases second : worker = "worker_2"
  · subst second
    rfl
  by_cases first : worker = "worker_1"
  · subst first
    rfl
  refine (Function.update_of_ne second _ _).trans ((Function.update_of_ne second _ _).trans
    ((Function.update_of_ne second _ _).trans ((Function.update_of_ne second _ _).trans
    ((Function.update_of_ne first _ _).trans ((Function.update_of_ne first _ _).trans
    ((Function.update_of_ne first _ _).trans ((Function.update_of_ne first _ _).trans rfl)))))))

end Taroai.Workers.Site
