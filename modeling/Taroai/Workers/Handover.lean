import Taroai.Workers.DeadLetters

/-! Runs that a continuation creates. A created run is handed past in two writes, the run first and
its job after it, and what dies between the two is not made up for: the job that is delivered again
finds the run already there. Along runs in which no worker stops with a created run in its hands,
every created run has a job that some worker will still execute. -/

namespace Taroai.Workers

open AgentWorker

namespace JobQueue

variable {P σ : Type} (Q : JobQueue P σ)

def Keeps (q q' : σ) : Prop :=
  ∀ id job, Q.get? q id = some job →
    ∃ after, Q.get? q' id = some after ∧ after.type = job.type ∧ after.payload = job.payload

variable {Q} {q q' : σ}

theorem Keeps.refl (q : σ) : Q.Keeps q q := fun _ job stored => ⟨job, stored, rfl, rfl⟩

theorem keeps_sweep {jobType : Option JobType} {now : Time} {error : String}
    (swept : ∀ id, Q.get? q' id = (Q.get? q id).map fun job => job.swept jobType error now) :
    Q.Keeps q q' := by
  intro id job stored
  refine ⟨job.swept jobType error now, ?_, JobEnvelope.swept_type .., JobEnvelope.swept_payload ..⟩
  rw [swept, stored]
  rfl

theorem keeps_reap (lawful : Q.Lawful) (q : σ) (jobType : Option JobType) (now : Time)
    (error : String) : Q.Keeps q (Q.reapExpiredLeases q jobType now error).2 :=
  keeps_sweep (lawful.reap_get? q jobType now error)

theorem keeps_claim (lawful : Q.Lawful) {jobType : JobType} {workerId : String} {now : Time}
    {leaseSeconds : Int} {claimed : Option (JobEnvelope P)}
    (ran : Q.claim q jobType workerId now leaseSeconds = (claimed, q')) : Q.Keeps q q' := by
  cases claimed with
  | none => exact keeps_sweep (lawful.claim_none ran)
  | some claimed =>
    obtain ⟨taken, swept, -, rfl, after⟩ := lawful.claim_some ran
    intro id job stored
    rw [after]
    by_cases same : id = taken.id
    · subst same
      rw [stored] at swept
      obtain rfl := Option.some.inj swept
      rw [if_pos rfl]
      exact ⟨_, rfl, JobEnvelope.swept_type .., JobEnvelope.swept_payload ..⟩
    · rw [if_neg same, stored]
      exact ⟨_, rfl, JobEnvelope.swept_type .., JobEnvelope.swept_payload ..⟩

theorem keeps_finish (lawful : Q.Lawful) {jobId : String} {verdict : Verdict} {now : Time}
    {finished : JobEnvelope P} (ran : Q.finish q jobId verdict now = .ok (finished, q')) :
    Q.Keeps q q' := by
  intro id job stored
  by_cases same : id = jobId
  · subst same
    obtain ⟨after, ran', written⟩ := lawful.finish_some stored verdict now
    obtain ⟨-, rfl⟩ := Prod.mk.inj (Except.ok.inj (ran'.symm.trans ran))
    refine ⟨job.finished verdict now, ?_, JobEnvelope.finished_type ..,
      JobEnvelope.finished_payload ..⟩
    rw [written, if_pos rfl]
  · cases present : Q.get? q jobId with
    | none => rw [lawful.finish_none present] at ran; cases ran
    | some other =>
      obtain ⟨after, ran', written⟩ := lawful.finish_some present verdict now
      obtain ⟨-, rfl⟩ := Prod.mk.inj (Except.ok.inj (ran'.symm.trans ran))
      exact ⟨job, by rw [written, if_neg same]; exact stored, rfl, rfl⟩

theorem keeps_enqueue (lawful : Q.Lawful) {jobId : String} {type : JobType} {payload : P}
    {now : Time} {maxAttempts : Nat} {created : JobEnvelope P} (absent : Q.get? q jobId = none)
    (ran : Q.enqueue q jobId type payload now maxAttempts = .ok (created, q')) : Q.Keeps q q' := by
  intro id job stored
  refine ⟨job, ?_, rfl, rfl⟩
  rw [(lawful.enqueue_ok absent ran).2, if_neg]
  · exact stored
  · rintro rfl
    rw [absent] at stored
    cases stored

end JobQueue

def JobEnvelope.open? {P : Type} (job : JobEnvelope P) : Bool :=
  job.status = .pending || job.status = .running

/-- The worker has the run without its job: it has still to enqueue it or to fail the run. -/
def Hands.Has (hands : Hands) (run : RunRef) : Prop :=
  run ∈ hands.handing ∨ ∃ letter ∈ hands.dead, letter.run = run ∧ letter.ended = false

namespace Site

variable {σ : Type} {Q : JobQueue RunExecutionJob σ} {settings : WorkerSettings}
  {specs : String → Workflow.WorkflowSpec} {s t : Site σ}

def Queued (Q : JobQueue RunExecutionJob σ) (s : Site σ) (run : RunRef) : Prop :=
  ∃ id job, Q.get? s.queue id = some job ∧ job.type = .runExecution ∧ job.payload.run = run ∧
    job.open? = true

def Has (s : Site σ) (run : RunRef) : Prop :=
  ∃ worker busy, s.workers worker = some busy ∧ busy.hands.Has run

/-- Every created run that was not executed and has not ended has a job or is in hand. -/
def NoOrphan (Q : JobQueue RunExecutionJob σ) (s : Site σ) : Prop :=
  ∀ run ∈ s.fresh, s.Queued Q run ∨ s.Has run

/-- No worker dies with a created run in its hands, and no claim gives up the job of one. -/
def Handing (Q : JobQueue RunExecutionJob σ) (s : Site σ) : Label → Prop
  | .proceed worker choose => ∀ hands,
    (∀ next, s.workers worker = some ⟨hands, .call .claim next⟩ → ∀ id ∈ s.doomed Q (choose .claim),
      ∀ job, Q.get? s.queue id = some job → job.payload.run ∉ s.fresh) ∧
    (s.workers worker = some ⟨hands, .raise⟩ → ∀ run ∈ s.fresh, ¬ hands.Has run)
  | .stop worker => ∀ busy, s.workers worker = some busy → ∀ run ∈ s.fresh, ¬ busy.hands.Has run
  | _ => True

def Alive (s : Site σ) (run : RunRef) : Prop :=
  ∃ status, s.status run = some status ∧ status.terminal = false

structure Grows (s t : Site σ) : Prop where
  plans : ∀ workflow, (s.plans workflow).runs.length ≤ (t.plans workflow).runs.length
  threads : ∀ thread, (s.threads thread).runs.length ≤ (t.threads thread).runs.length

theorem Grows.refl (s : Site σ) : Grows s s := ⟨fun _ => le_rfl, fun _ => le_rfl⟩

theorem Grows.still {run : RunRef} (grows : Grows s t) (present : s.status run ≠ none) :
    t.status run ≠ none := by
  cases run with
  | child workflow index =>
    have := grows.plans workflow
    simp only [status, ne_eq, Option.map_eq_none_iff, List.getElem?_eq_none_iff] at present ⊢
    omega
  | chat thread index =>
    have := grows.threads thread
    simp only [status, ne_eq, Option.map_eq_none_iff, List.getElem?_eq_none_iff] at present ⊢
    omega
  | plain id => simp [status]

theorem grows_setPlan {workflow : String} {plan : Workflow.WorkflowStore}
    (longer : (s.plans workflow).runs.length ≤ plan.runs.length) :
    Grows s (s.setPlan workflow plan) where
  plans other := by
    simp only [setPlan, Function.update_apply]
    split
    · next same => rw [same]; exact longer
    · exact le_rfl
  threads _ := le_rfl

theorem grows_setThread {thread : String} {store : Chat.ThreadStore}
    (longer : (s.threads thread).runs.length ≤ store.runs.length) :
    Grows s (s.setThread thread store) where
  plans _ := le_rfl
  threads other := by
    simp only [setThread, Function.update_apply]
    split
    · next same => rw [same]; exact longer
    · exact le_rfl

theorem grows_setStatus (run : RunRef) (status : RunStatus) : Grows s (s.setStatus run status) := by
  cases run with
  | child workflow index => exact grows_setPlan (by simp [Workflow.WorkflowStore.setRunStatus])
  | chat thread index => exact grows_setThread (by simp)
  | plain id => exact ⟨fun _ => le_rfl, fun _ => le_rfl⟩

theorem respond_plan_length (plan : Workflow.WorkflowStore) (c : Workflow.PlanCall)
    (proposed : c.Answer) : plan.runs.length ≤ (plan.respond c proposed).2.runs.length := by
  cases c with
  | createChildRun taskId => simp [Workflow.WorkflowStore.respond]
  | cancelSibling task =>
    simp only [Workflow.WorkflowStore.respond, Workflow.WorkflowStore.cancelSibling]
    split
    · simp only [Workflow.WorkflowStore.updateTask, Workflow.WorkflowStore.cancelChild]
      split
      · exact le_rfl
      · split <;> simp [Workflow.WorkflowStore.cancelRun]
    · exact le_rfl
  | taskForChildRun runId | workflowStatus | listTasks | succeedTask taskId outcome
  | endTask taskId outcome | linkTask task runId | synthesis | setStatus status parentStatus =>
    exact le_rfl

theorem respond_thread_length (store : Chat.ThreadStore) (c : Chat.ThreadCall)
    (proposed : c.Answer) : store.runs.length ≤ (store.respond c proposed).2.runs.length := by
  cases c with
  | claimNextQueuedMessage =>
    simp only [Chat.ThreadStore.respond]
    split <;> exact le_rfl
  | createQueuedThreadRunIfAbsent trigger =>
    simp only [Chat.ThreadStore.respond]
    split
    · exact le_rfl
    · exact le_rfl
    · simp [Chat.ThreadStore.addRun]
  | getThread | resolveSelection | getActiveRun | steeringAvailable
  | appendMessage manual dispatchStatus | listPendingSteering
  | updateMessage sequence dispatchStatus | updateKind sequence dispatchStatus manual
  | deleteMessage sequence => exact le_rfl

section Calls

variable {worker : String} {c : WorkerCall} {choice : c.Choice} {a : c.Answer}
  {reaped : List RunJob} {rejected : Option RunJob}

def queues : WorkerCall → Bool
  | .reapExpiredLeases | .claim | .ack _ | .reject _ | .enqueue _ => true
  | _ => false

theorem report_grows (jobId : String) (verdict : Verdict) (now : Time) :
    Grows s (s.report Q jobId verdict now).2 := by
  unfold report
  split <;> exact ⟨fun _ => le_rfl, fun _ => le_rfl⟩

theorem respond_grows (responded : s.respond Q settings worker c choice = some (a, t)) :
    Grows s t := by
  cases c with
  | reapExpiredLeases | claim =>
    obtain ⟨-, rfl⟩ := Prod.mk.inj (Option.some.inj responded)
    exact ⟨fun _ => le_rfl, fun _ => le_rfl⟩
  | ack jobId =>
    obtain ⟨-, rfl⟩ := Prod.mk.inj (Option.some.inj responded)
    exact report_grows jobId .ack choice
  | reject jobId =>
    obtain ⟨-, rfl⟩ := Prod.mk.inj (Option.some.inj responded)
    exact report_grows jobId _ choice.2
  | enqueue run =>
    simp only [respond] at responded
    split at responded
    · cases responded
    · split at responded <;>
        obtain ⟨-, rfl⟩ := Prod.mk.inj (Option.some.inj responded) <;>
        exact ⟨fun _ => le_rfl, fun _ => le_rfl⟩
  | refreshModelRuntime | getRun run | restoreState run =>
    obtain ⟨-, rfl⟩ := Prod.mk.inj (Option.some.inj responded)
    exact .refl s
  | markRunning run =>
    cases run <;> obtain ⟨-, rfl⟩ := Prod.mk.inj (Option.some.inj responded)
    · refine grows_setPlan ?_
      simp only [Workflow.WorkflowStore.markRunning]
      split
      · exact le_rfl
      · split <;> exact le_rfl
    · exact .refl s
    · exact .refl s
  | workflowTask run =>
    cases run <;> obtain ⟨-, rfl⟩ := Prod.mk.inj (Option.some.inj responded) <;> exact .refl s
  | executeRun run =>
    obtain ⟨status, _ | state⟩ := choice
    · obtain ⟨-, rfl⟩ := Prod.mk.inj (Option.some.inj responded)
      exact .refl s
    · simp only [respond] at responded
      split at responded <;> obtain ⟨-, rfl⟩ := Prod.mk.inj (Option.some.inj responded)
      · exact .refl s
      · exact grows_setStatus run status
  | failRun run =>
    cases choice with
    | none =>
      obtain ⟨-, rfl⟩ := Prod.mk.inj (Option.some.inj responded)
      exact .refl s
    | some state =>
      obtain ⟨-, rfl⟩ := Prod.mk.inj (Option.some.inj responded)
      exact grows_setStatus run .failed
  | updateRunStatus run status =>
    obtain ⟨-, rfl⟩ := Prod.mk.inj (Option.some.inj responded)
    exact grows_setStatus run status
  | plan workflow c =>
    obtain ⟨-, rfl⟩ := Prod.mk.inj (Option.some.inj responded)
    exact grows_setPlan (respond_plan_length _ c choice)
  | thread thread c =>
    obtain ⟨-, rfl⟩ := Prod.mk.inj (Option.some.inj responded)
    exact grows_setThread (respond_thread_length _ c choice)

theorem respond_queue (other : queues c = false)
    (responded : s.respond Q settings worker c choice = some (a, t)) : t.queue = s.queue := by
  cases c with
  | reapExpiredLeases | claim | ack jobId | reject jobId | enqueue run => cases other
  | refreshModelRuntime | getRun run | restoreState run | updateRunStatus run status
  | plan workflow c | thread thread c =>
    obtain ⟨-, rfl⟩ := Prod.mk.inj (Option.some.inj responded)
    first | rfl | exact setStatus_queue ..
  | markRunning run | workflowTask run =>
    cases run <;> obtain ⟨-, rfl⟩ := Prod.mk.inj (Option.some.inj responded) <;> rfl
  | executeRun run =>
    obtain ⟨status, _ | state⟩ := choice
    · obtain ⟨-, rfl⟩ := Prod.mk.inj (Option.some.inj responded)
      rfl
    · simp only [respond] at responded
      split at responded <;> obtain ⟨-, rfl⟩ := Prod.mk.inj (Option.some.inj responded)
      · rfl
      · exact setStatus_queue ..
  | failRun run =>
    cases choice with
    | none =>
      obtain ⟨-, rfl⟩ := Prod.mk.inj (Option.some.inj responded)
      rfl
    | some state =>
      obtain ⟨-, rfl⟩ := Prod.mk.inj (Option.some.inj responded)
      exact setStatus_queue ..

theorem report_keeps (lawful : Q.Lawful) (jobId : String) (verdict : Verdict) (now : Time) :
    Q.Keeps s.queue (s.report Q jobId verdict now).2.queue := by
  unfold report
  split
  · next ran => exact JobQueue.keeps_finish lawful ran
  · exact .refl s.queue

theorem respond_keeps (lawful : Q.Lawful)
    (responded : s.respond Q settings worker c choice = some (a, t)) :
    Q.Keeps s.queue t.queue := by
  cases c with
  | reapExpiredLeases =>
    obtain ⟨-, rfl⟩ := Prod.mk.inj (Option.some.inj responded)
    exact JobQueue.keeps_reap lawful s.queue _ choice leaseExpiredError
  | claim =>
    obtain ⟨-, rfl⟩ := Prod.mk.inj (Option.some.inj responded)
    exact JobQueue.keeps_claim lawful rfl
  | ack jobId =>
    obtain ⟨-, rfl⟩ := Prod.mk.inj (Option.some.inj responded)
    exact report_keeps lawful jobId .ack choice
  | reject jobId =>
    obtain ⟨-, rfl⟩ := Prod.mk.inj (Option.some.inj responded)
    exact report_keeps lawful jobId _ choice.2
  | enqueue run =>
    obtain ⟨id, now⟩ := choice
    simp only [respond] at responded
    split at responded
    · cases responded
    · next absent =>
      split at responded <;> obtain ⟨-, rfl⟩ := Prod.mk.inj (Option.some.inj responded)
      · next ran => exact JobQueue.keeps_enqueue lawful absent ran
      · exact .refl s.queue
  | refreshModelRuntime | getRun run | markRunning run | executeRun run | restoreState run
  | failRun run | updateRunStatus run status | workflowTask run | plan workflow c
  | thread thread c =>
    rw [respond_queue rfl responded]
    exact .refl s.queue

theorem created_absent (responded : s.respond Q settings worker c choice = some (a, t)) {run : RunRef}
    (created : run ∈ created c a) : s.status run = none := by
  cases c with
  | plan workflow c =>
    cases c
    case createChildRun taskId =>
      obtain ⟨rfl, -⟩ := Prod.mk.inj (Option.some.inj responded)
      obtain rfl : run = _ := created
      simp [status]
    all_goals exact created.elim
  | thread thread c =>
    cases c
    case createQueuedThreadRunIfAbsent trigger =>
      obtain ⟨rfl, -⟩ := Prod.mk.inj (Option.some.inj responded)
      simp only at created
      split at created
      · exact created.elim
      · exact created.elim
      · obtain rfl : run = _ := created
        simp [status, Chat.ThreadStore.createQueuedRun]
    all_goals exact created.elim
  | reapExpiredLeases | claim | ack jobId | reject jobId | enqueue run | refreshModelRuntime
  | getRun run | markRunning run | executeRun run | restoreState run | failRun run
  | updateRunStatus run status | workflowTask run => exact created.elim

def Serves (Q : JobQueue RunExecutionJob σ) (s : Site σ) (hands : Hands) : Prop :=
  ∀ served, hands.serving = some served →
    (∃ job, Q.get? s.queue served.jobId = some job ∧ job.payload.run = served.run) ∧
    (served.executed = true → served.run ∉ s.fresh ∧ s.status served.run ≠ none)

theorem open_of_sweep {job : RunJob} {jobType : Option JobType} {now : Time} {error : String}
    (opened : job.open? = true)
    (kept : job.leaseExpired now = true → job.attempts < job.maxAttempts) :
    (job.swept jobType error now).open? = true := by
  unfold JobEnvelope.swept
  split
  · next due =>
    have status : (job.reaped error now).status = .pending := by
      rw [JobEnvelope.reaped_status, if_pos (kept (JobEnvelope.due_iff.mp due).2)]
    simp [JobEnvelope.open?, status]
  · exact opened

theorem queued_report (lawful : Q.Lawful) {run : RunRef} {jobId : String} {verdict : Verdict}
    {now : Time} (queued : s.Queued Q run)
    (given : ∀ job, Q.get? s.queue jobId = some job → job.type = .runExecution →
      job.payload.run = run → (job.finished verdict now).open? = true) :
    (s.report Q jobId verdict now).2.Queued Q run := by
  obtain ⟨id, job, stored, type, payload, opened⟩ := queued
  unfold report
  cases present : Q.get? s.queue jobId with
  | none =>
    rw [lawful.finish_none present]
    exact ⟨id, job, stored, type, payload, opened⟩
  | some other =>
    obtain ⟨queue, ran, written⟩ := lawful.finish_some present verdict now
    rw [ran]
    by_cases same : id = jobId
    · subst same
      obtain rfl := Option.some.inj (stored.symm.trans present)
      refine ⟨id, job.finished verdict now, ?_, ?_, ?_, given job present type payload⟩
      · exact (written id).trans (if_pos rfl)
      · exact (JobEnvelope.finished_type ..).trans type
      · rw [JobEnvelope.finished_payload]
        exact payload
    · exact ⟨id, job, (written id).trans ((if_neg same).trans stored), type, payload, opened⟩

theorem queued_reap (reporting : Q.Reporting) (hands : Hands) {run : RunRef} {now : Time}
    (queued : s.Queued Q run)
    (responded : s.respond Q settings worker .reapExpiredLeases now = some (reaped, t)) :
    t.Queued Q run ∨ (hands.next .reapExpiredLeases reaped).Has run := by
  obtain ⟨id, job, stored, type, payload, opened⟩ := queued
  obtain ⟨rfl, rfl⟩ := Prod.mk.inj (Option.some.inj responded)
  by_cases spent : job.leaseExpired now = true ∧ ¬ job.attempts < job.maxAttempts
  · refine Or.inr (Or.inr ?_)
    have due : job.due (some .runExecution) now = true :=
      JobEnvelope.due_iff.mpr ⟨by rintro _ ⟨⟩; exact type, spent.1⟩
    obtain ⟨-, returned⟩ := @JobQueue.Reporting.reaps _ _ _ reporting s.queue id job
      (some .runExecution) now leaseExpiredError stored due
    have dead : (job.reaped leaseExpiredError now).status = .deadLetter := by
      rw [JobEnvelope.reaped_status, if_neg spent.2]
    refine ⟨_, List.mem_map_of_mem (List.mem_filter.mpr ⟨returned, decide_eq_true dead⟩), ?_, rfl⟩
    exact (congrArg RunExecutionJob.run (JobEnvelope.returned_payload ..)).trans payload
  · refine Or.inl ⟨id, job.swept (some .runExecution) leaseExpiredError now, ?_, ?_, ?_,
      open_of_sweep opened fun past => by_contra fun short => spent ⟨past, short⟩⟩
    · rw [reporting.lawful.reap_get?, stored]
      rfl
    · exact (JobEnvelope.swept_type ..).trans type
    · rw [JobEnvelope.swept_payload]
      exact payload

theorem queued_claim (lawful : Q.Lawful) {run : RunRef} {jobType : JobType} {workerId : String}
    {now : Time} {leaseSeconds : Int} {claimed : Option RunJob} {queue : σ}
    (queued : s.Queued Q run)
    (careful : ∀ job, job.due (some jobType) now = true → job.type = .runExecution →
      job.payload.run = run → (∃ id, Q.get? s.queue id = some job) → job.attempts < job.maxAttempts)
    (ran : Q.claim s.queue jobType workerId now leaseSeconds = (claimed, queue)) :
    ∃ id job, Q.get? queue id = some job ∧ job.type = .runExecution ∧ job.payload.run = run ∧
      job.open? = true := by
  obtain ⟨id, job, stored, type, payload, opened⟩ := queued
  let swept := job.swept (some jobType) leaseExpiredError now
  have type' : swept.type = .runExecution := (JobEnvelope.swept_type ..).trans type
  have payload' : swept.payload.run = run :=
    (congrArg RunExecutionJob.run (JobEnvelope.swept_payload ..)).trans payload
  have opened' : swept.open? = true := by
    by_cases due : job.due (some jobType) now = true
    · exact open_of_sweep opened fun _ => careful job due type payload ⟨id, stored⟩
    · change (JobEnvelope.swept ..).open? = true
      rw [JobEnvelope.swept, if_neg due]
      exact opened
  cases claimed with
  | none =>
    refine ⟨id, swept, ?_, type', payload', opened'⟩
    rw [lawful.claim_none ran, stored]
    rfl
  | some claimed =>
    obtain ⟨taken, found, -, rfl, after⟩ := lawful.claim_some ran
    by_cases same : id = taken.id
    · subst same
      rw [stored] at found
      obtain rfl : swept = taken := Option.some.inj found
      exact ⟨_, _, (after _).trans (if_pos rfl), type', payload', rfl⟩
    · refine ⟨id, swept, ?_, type', payload', opened'⟩
      rw [after, if_neg same, stored]
      rfl

theorem queued_reject (lawful : Q.Lawful) {hands : Hands} {run : RunRef} {jobId : String}
    {choice : String × Time} (serves : s.Serves Q hands)
    (legal : (conduct false).legal hands (.reject jobId))
    (responded : s.respond Q settings worker (.reject jobId) choice = some (rejected, t))
    (queued : s.Queued Q run) :
    t.Queued Q run ∨ (hands.next (.reject jobId) rejected).Has run := by
  obtain ⟨same, rfl⟩ := Prod.mk.inj (Option.some.inj responded)
  obtain ⟨served, executed, serving⟩ := legal
  obtain ⟨⟨job, stored, mine⟩, -⟩ := serves _ serving
  obtain ⟨queue, ran, -⟩ :=
    lawful.finish_some stored (.reject choice.1 settings.retryDelaySeconds) choice.2
  simp only [ran] at same
  subst same
  by_cases gone : job.payload.run = run ∧ (job.finished
      (.reject choice.1 settings.retryDelaySeconds) choice.2).status = .deadLetter
  · refine Or.inr (Or.inr ⟨⟨jobId, served, false⟩, ?_, ?_, rfl⟩)
    · change _ ∈ (if _ then _ else _)
      rw [if_pos gone.2, serving]
      exact List.mem_append_right _ List.mem_cons_self
    · exact mine.symm.trans gone.1
  · refine Or.inl (queued_report lawful queued fun other stored' _ payload => ?_)
    obtain rfl := Option.some.inj (stored.symm.trans stored')
    have status : (job.finished (.reject choice.1 settings.retryDelaySeconds) choice.2).status =
        if job.attempts < job.maxAttempts then .pending else .deadLetter :=
      JobEnvelope.returned_status ..
    have short : job.attempts < job.maxAttempts := by
      by_contra spent
      exact gone ⟨payload, status.trans (if_neg spent)⟩
    rw [if_pos short] at status
    simp [JobEnvelope.open?, status]

theorem queued_respond (reporting : Q.Reporting) {hands : Hands} {run : RunRef}
    (legal : (conduct false).legal hands c) (serves : s.Serves Q hands) (new : run ∈ s.fresh)
    (careful : c = .claim → ∀ id ∈ s.expires Q c choice, ∀ job,
      Q.get? s.queue id = some job → job.payload.run ∉ s.fresh)
    (responded : s.respond Q settings worker c choice = some (a, t)) (queued : s.Queued Q run) :
    t.Queued Q run ∨ (hands.next c a).Has run := by
  have lawful := reporting.lawful
  by_cases other : queues c = false
  · refine Or.inl ?_
    unfold Queued
    rw [respond_queue other responded]
    exact queued
  cases c with
  | reapExpiredLeases => exact queued_reap reporting hands queued responded
  | claim =>
    obtain ⟨-, rfl⟩ := Prod.mk.inj (Option.some.inj responded)
    refine Or.inl (queued_claim lawful queued ?_ rfl)
    rintro job due type payload ⟨id, stored⟩
    by_contra spent
    refine careful rfl id ⟨job, stored, type, (JobEnvelope.due_iff.mp due).2, spent⟩ job stored ?_
    rw [payload]
    exact new
  | ack jobId =>
    obtain ⟨-, rfl⟩ := Prod.mk.inj (Option.some.inj responded)
    refine Or.inl (queued_report lawful queued fun job stored _ payload => ?_)
    obtain ⟨served, serving⟩ := legal
    obtain ⟨⟨mine, stored', same⟩, executed⟩ := serves _ serving
    obtain rfl := Option.some.inj (stored.symm.trans stored')
    obtain rfl : served = run := same.symm.trans payload
    exact absurd new (executed rfl).1
  | reject jobId => exact queued_reject lawful serves legal responded queued
  | enqueue started =>
    obtain ⟨id, job, stored, type, payload, opened⟩ := queued
    obtain ⟨newId, now⟩ := choice
    simp only [respond] at responded
    split at responded
    · cases responded
    · next absent =>
      split at responded <;> obtain ⟨-, rfl⟩ := Prod.mk.inj (Option.some.inj responded)
      · next ran =>
        refine Or.inl ⟨id, job, ?_, type, payload, opened⟩
        rw [(lawful.enqueue_ok absent ran).2, if_neg]
        · exact stored
        · rintro rfl
          rw [absent] at stored
          cases stored
      · exact Or.inl ⟨id, job, stored, type, payload, opened⟩
  | refreshModelRuntime | getRun run | markRunning run | executeRun run | restoreState run
  | failRun run | updateRunStatus run status | workflowTask run | plan workflow c
  | thread thread c => exact absurd rfl other

/-- The call after which the run is no more in hand: it has got its job, or it has ended. -/
def Releases (run : RunRef) : (c : WorkerCall) → c.Answer → Prop
  | .enqueue started, some _ => started = run
  | .getRun read, some status => read = run ∧ status.terminal = true
  | .failRun failed, some _ => failed = run
  | _, _ => False

theorem has_endRun {hands : Hands} {run ended : RunRef} (has : hands.Has run)
    (other : ended ≠ run) : (hands.endRun ended).Has run := by
  refine has.imp_right ?_
  rintro ⟨letter, member, rfl, open'⟩
  refine ⟨letter, List.mem_map.mpr ⟨letter, member, ?_⟩, rfl, open'⟩
  rw [if_neg fun same => other same.symm]

theorem has_next {hands : Hands} {run : RunRef} (legal : (conduct false).legal hands c)
    (has : hands.Has run) (a : c.Answer) : (hands.next c a).Has run ∨ Releases run c a := by
  cases c with
  | reapExpiredLeases =>
    rcases has with handing | ⟨letter, member, -⟩
    · rw [legal.2] at handing
      cases handing
    · rw [legal.1] at member
      cases member
  | claim => cases a <;> exact Or.inl has
  | executeRun run => cases a <;> exact Or.inl has
  | reject jobId =>
    cases a with
    | none => exact Or.inl has
    | some job =>
      refine Or.inl (has.imp_right ?_)
      rintro ⟨letter, member, same⟩
      refine ⟨letter, ?_, same⟩
      change letter ∈ (if _ then _ else _)
      split
      · exact List.mem_append_left _ member
      · exact member
  | enqueue started =>
    cases a with
    | none => exact Or.inl has
    | some job =>
      by_cases same : started = run
      · exact Or.inr same
      · refine Or.inl (has.imp_left fun member => ?_)
        exact (List.mem_erase_of_ne fun other => same other.symm).mpr member
  | getRun read =>
    cases a with
    | none => exact Or.inl has
    | some status =>
      change (if status.terminal = true then hands.endRun read else hands).Has run ∨ _
      split
      · next ended =>
        by_cases same : read = run
        · exact Or.inr ⟨same, ended⟩
        · exact Or.inl (has_endRun has same)
      · exact Or.inl has
  | failRun failed =>
    cases a with
    | none => exact Or.inl has
    | some state =>
      by_cases same : failed = run
      · exact Or.inr same
      · exact Or.inl (has_endRun has same)
  | workflowTask other =>
    refine Or.inl (has.imp_right ?_)
    rintro ⟨letter, member, same, open'⟩
    refine ⟨letter, Hands.mem_drop.mpr ⟨member, ?_⟩, same, open'⟩
    rintro ⟨-, ended⟩
    rw [open'] at ended
    cases ended
  | plan workflow c =>
    cases c
    case createChildRun taskId => exact Or.inl (has.imp_left (List.mem_append_left _))
    all_goals exact Or.inl has
  | thread thread c =>
    cases c
    case createQueuedThreadRunIfAbsent trigger =>
      rcases a with _ | ⟨created, _ | _⟩
      · exact Or.inl has
      · exact Or.inl has
      · exact Or.inl (has.imp_left (List.mem_append_left _))
    all_goals exact Or.inl has
  | ack jobId | refreshModelRuntime | markRunning run | restoreState run
  | updateRunStatus run status => exact Or.inl has

theorem setStatus_status {run : RunRef} {status after : RunStatus}
    (found : (s.setStatus run status).status run = some after) : after = status := by
  cases run with
  | child workflow index =>
    simp only [Site.status, setStatus, setPlan, Function.update_self,
      Workflow.WorkflowStore.setRunStatus, List.getElem?_modify_eq,
      Option.map_eq_some_iff] at found
    obtain ⟨updated, listed, rfl⟩ := found
    obtain ⟨before, -, rfl⟩ := Option.map_eq_some_iff.mp listed
    rfl
  | chat thread index =>
    simp only [Site.status, setStatus, setThread, Function.update_self,
      List.getElem?_modify_eq, Option.map_eq_some_iff] at found
    obtain ⟨updated, listed, rfl⟩ := found
    obtain ⟨before, -, rfl⟩ := Option.map_eq_some_iff.mp listed
    rfl
  | plain id =>
    simp only [Site.status, setStatus, Function.update_self, Option.some.injEq] at found
    exact found.symm

theorem released (reporting : Q.Reporting) {run : RunRef} (releases : Releases run c a)
    (responded : s.respond Q settings worker c choice = some (a, t)) (alive : t.Alive run) :
    t.Queued Q run := by
  obtain ⟨status, found, running⟩ := alive
  cases c with
  | enqueue started =>
    obtain ⟨id, now⟩ := choice
    simp only [respond] at responded
    split at responded
    · cases responded
    · next absent =>
      split at responded <;> obtain ⟨rfl, rfl⟩ := Prod.mk.inj (Option.some.inj responded)
      · next job queue ran =>
        obtain rfl : started = run := releases
        obtain ⟨job', queue', ran', type, payload⟩ := reporting.accepts s.queue id .runExecution
          ⟨started⟩ now settings.continuationMaxAttempts settings.continuationMaxAttempts_pos
        obtain ⟨rfl, rfl⟩ := Prod.mk.inj (Except.ok.inj (ran'.symm.trans ran))
        obtain ⟨⟨pending, -⟩, written⟩ := reporting.lawful.enqueue_ok absent ran
        refine ⟨id, job', (written id).trans (if_pos rfl), type, by rw [payload], ?_⟩
        simp [JobEnvelope.open?, pending]
      · exact releases.elim
  | getRun read =>
    obtain ⟨rfl, rfl⟩ := Prod.mk.inj (Option.some.inj responded)
    cases present : s.status read with
    | none =>
      rw [present] at releases
      exact releases.elim
    | some seen =>
      rw [present] at releases
      obtain ⟨rfl, ended⟩ := releases
      rw [found] at present
      obtain rfl := Option.some.inj present
      rw [running] at ended
      cases ended
  | failRun failed =>
    cases choice with
    | none =>
      obtain ⟨rfl, -⟩ := Prod.mk.inj (Option.some.inj responded)
      exact releases.elim
    | some state =>
      obtain ⟨rfl, rfl⟩ := Prod.mk.inj (Option.some.inj responded)
      obtain rfl : failed = run := releases
      rw [setStatus_status found] at running
      cases running
  | reapExpiredLeases | claim | ack jobId | reject jobId | refreshModelRuntime | markRunning run
  | executeRun run | restoreState run | updateRunStatus run status | workflowTask run
  | plan workflow c | thread thread c => exact releases.elim

theorem has_created (hands : Hands) {run : RunRef} (created : run ∈ created c a) :
    (hands.next c a).Has run := by
  cases c with
  | plan workflow c =>
    cases c
    case createChildRun taskId =>
      obtain rfl : run = _ := created
      exact Or.inl (List.mem_append_right _ List.mem_cons_self)
    all_goals exact created.elim
  | thread thread c =>
    cases c
    case createQueuedThreadRunIfAbsent trigger =>
      rcases a with _ | ⟨started, _ | _⟩
      · exact created.elim
      · exact created.elim
      · obtain rfl : run = _ := created
        exact Or.inl (List.mem_append_right _ List.mem_cons_self)
    all_goals exact created.elim
  | reapExpiredLeases | claim | ack jobId | reject jobId | enqueue run | refreshModelRuntime
  | getRun run | markRunning run | executeRun run | restoreState run | failRun run
  | updateRunStatus run status | workflowTask run => exact created.elim

end Calls

structure Handed (Q : JobQueue RunExecutionJob σ) (s : Site σ) : Prop where
  conducted : ∀ worker busy, s.workers worker = some busy →
    busy.rest.wp (conduct false) (fun _ hands => Clear false hands) (fun hands => hands.handing = [])
      busy.hands
  serves : ∀ worker busy, s.workers worker = some busy → s.Serves Q busy.hands
  attended : ∀ run ∈ s.fresh, s.Alive run → s.Queued Q run ∨ s.Has run

theorem Serves.mono {hands : Hands} (serves : s.Serves Q hands) (keeps : Q.Keeps s.queue t.queue)
    (grows : Grows s t) (fresh : ∀ run ∈ t.fresh, run ∈ s.fresh ∨ s.status run = none) :
    t.Serves Q hands := by
  intro served serving
  obtain ⟨⟨job, stored, mine⟩, executed⟩ := serves served serving
  obtain ⟨after, stored', -, payload⟩ := keeps served.jobId job stored
  refine ⟨⟨after, stored', by rw [payload]; exact mine⟩, fun done => ?_⟩
  obtain ⟨gone, present⟩ := executed done
  refine ⟨fun member => ?_, grows.still present⟩
  exact (fresh _ member).elim gone present

theorem Handed.frame (handed : Handed Q s) (workers : t.workers = s.workers)
    (fresh : t.fresh = s.fresh) (keeps : Q.Keeps s.queue t.queue) (grows : Grows s t)
    (alive : ∀ run ∈ s.fresh, s.Alive run) (queued : ∀ run, s.Queued Q run → t.Queued Q run) :
    Handed Q t where
  conducted := by
    rw [workers]
    exact handed.conducted
  serves := by
    rw [workers]
    intro worker busy held
    refine (handed.serves worker busy held).mono keeps grows fun run member => ?_
    rw [fresh] at member
    exact Or.inl member
  attended := by
    intro run member _
    rw [fresh] at member
    refine (handed.attended run member (alive run member)).imp (queued run) ?_
    simp only [Has, workers]
    exact id

theorem Handed.settle (handed : Handed Q s) : Handed Q s.settle where
  conducted := handed.conducted
  serves worker busy held :=
    (handed.serves worker busy held).mono (.refl s.queue) ⟨fun _ => le_rfl, fun _ => le_rfl⟩
      fun _ member => Or.inl member.1
  attended run member _ := handed.attended run member.1 member.2

theorem settle_alive : ∀ run ∈ s.settle.fresh, s.settle.Alive run := fun _ member => member.2

theorem Handed.setWorker (handed : Handed Q s) {worker : String} {busy : Option Busy}
    (conducts : ∀ begun, busy = some begun →
      begun.rest.wp (conduct false) (fun _ hands => Clear false hands)
        (fun hands => hands.handing = []) begun.hands ∧ begun.hands.serving = none)
    (empty : ∀ before, s.workers worker = some before → ∀ run ∈ s.fresh, ¬ before.hands.Has run) :
    Handed Q (s.setWorker worker busy) where
  conducted := by
    intro other begun held
    rw [setWorker_workers] at held
    split at held
    · exact (conducts begun held).1
    · exact handed.conducted other begun held
  serves := by
    intro other begun held
    rw [setWorker_workers] at held
    split at held
    · intro served serving
      rw [(conducts begun held).2] at serving
      cases serving
    · exact (handed.serves other begun held).mono (.refl s.queue) ⟨fun _ => le_rfl, fun _ => le_rfl⟩
        fun run member => Or.inl member
  attended := by
    intro run member alive
    refine (handed.attended run member alive).imp_right ?_
    rintro ⟨other, before, held, has⟩
    refine ⟨other, before, ?_, has⟩
    rw [setWorker_workers, if_neg]
    · exact held
    · rintro rfl
      exact empty before held run member has

theorem serves_next (lawful : Q.Lawful) {worker : String} {c : WorkerCall} {choice : c.Choice}
    {a : c.Answer} {hands : Hands} {u : Site σ} (legal : (conduct false).legal hands c)
    (serves : s.Serves Q hands) (responded : s.respond Q settings worker c choice = some (a, t))
    (queue : u.queue = t.queue) (grows : Grows s u)
    (fresh : ∀ run ∈ u.fresh, (run ∈ s.fresh ∧ run ∉ executed c a) ∨ s.status run = none) :
    u.Serves Q (hands.next c a) := by
  have keeps : Q.Keeps s.queue u.queue := by
    rw [queue]
    exact respond_keeps lawful responded
  have kept : u.Serves Q hands :=
    serves.mono keeps grows fun run member => (fresh run member).imp_left And.left
  cases c with
  | claim =>
    obtain ⟨rfl, rfl⟩ := Prod.mk.inj (Option.some.inj responded)
    cases ran : Q.claim s.queue .runExecution worker choice settings.leaseSeconds with
    | mk claimed queue' =>
      cases claimed with
      | none =>
        simp only [ran] at kept ⊢
        exact kept
      | some claimed =>
        obtain ⟨taken, -, -, rfl, after⟩ := lawful.claim_some ran
        simp only [ran] at queue ⊢
        rintro served ⟨⟩
        refine ⟨⟨_, ?_, rfl⟩, fun never => by cases never⟩
        rw [queue, after]
        exact if_pos rfl
  | executeRun run =>
    cases a with
    | none => exact kept
    | some state =>
      obtain ⟨jobId, before, serving⟩ := legal
      have present : s.status run ≠ none := by
        obtain ⟨status, _ | outcome⟩ := choice
        · cases responded
        · intro absent
          simp [respond, absent] at responded
      rintro served same
      change hands.serving.map _ = some served at same
      rw [serving] at same
      cases same
      refine ⟨(kept _ serving).1, fun _ => ⟨fun member => ?_, grows.still present⟩⟩
      rcases fresh run member with ⟨-, remaining⟩ | absent
      · exact remaining rfl
      · exact present absent
  | getRun run =>
    cases a with
    | none => exact kept
    | some status =>
      change u.Serves Q (if status.terminal = true then hands.endRun run else hands)
      split <;> exact kept
  | reject jobId | enqueue run | failRun run => cases a <;> exact kept
  | plan workflow c => cases c <;> exact kept
  | thread thread c =>
    cases c
    case createQueuedThreadRunIfAbsent trigger =>
      rcases a with _ | ⟨created, _ | _⟩ <;> exact kept
    all_goals exact kept
  | reapExpiredLeases | ack jobId | refreshModelRuntime | markRunning run | restoreState run
  | updateRunStatus run status | workflowTask run => exact kept

theorem handed_proceed (reporting : Q.Reporting) (handed : Handed Q s)
    (alive : ∀ run ∈ s.fresh, s.Alive run) {worker : String} {choose : (c : WorkerCall) → c.Choice}
    (handing : s.Handing Q (.proceed worker choose))
    (moved : s.proceed Q settings worker choose = some t) : Handed Q t := by
  unfold proceed at moved
  cases here : s.workers worker with
  | none => simp [here] at moved
  | some busy =>
    obtain ⟨hands, rest⟩ := busy
    have conducts := handed.conducted worker _ here
    have only : ∀ before, s.workers worker = some before → before = ⟨hands, rest⟩ := by
      intro before held
      exact Option.some.inj (held.symm.trans here)
    cases rest with
    | pure value =>
      simp only [here, Option.some.injEq] at moved
      subst moved
      refine handed.setWorker (by rintro _ ⟨⟩) fun before held run _ has => ?_
      rw [only before held] at has
      rcases has with handing' | ⟨letter, member, -, open'⟩
      · rw [conducts.handing] at handing'
        cases handing'
      · rcases conducts.owing letter member with ⟨ended, -⟩ | listed
        · rw [open'] at ended
          cases ended
        · cases listed
    | raise =>
      simp only [here, Option.some.injEq] at moved
      subst moved
      refine handed.setWorker (by rintro _ ⟨⟩) fun before held => ?_
      rw [only before held]
      exact (handing hands).2 here
    | call c next =>
      simp only [here] at moved
      cases responded : s.respond Q settings worker c (choose c) with
      | none => simp [responded] at moved
      | some answered =>
        obtain ⟨a, u⟩ := answered
        simp only [responded, Option.some.injEq] at moved
        subst moved
        have frame := respond_frame responded
        have expected : Expected false hands c a :=
          respond_expected reporting (by rintro ⟨⟩) responded
        have serves := handed.serves worker _ here
        have keeps := respond_keeps reporting.lawful responded
        have careful : c = .claim → ∀ id ∈ s.expires Q c (choose c), ∀ job,
            Q.get? s.queue id = some job → job.payload.run ∉ s.fresh := by
          rintro rfl
          exact (handing hands).1 next here
        have grows : Grows s { u.setWorker worker (some ⟨hands.next c a, next a⟩) with
            finished := hands.finishes c ++ s.finished
            fresh := (s.fresh \ executed c a) ∪ created c a } := by
          have grown := respond_grows responded
          exact ⟨grown.plans, grown.threads⟩
        have fresh : ∀ run ∈ (s.fresh \ executed c a) ∪ created c a,
            (run ∈ s.fresh ∧ run ∉ executed c a) ∨ s.status run = none := by
          intro run member
          exact member.imp_right fun new => created_absent responded new
        have self : (u.setWorker worker (some ⟨hands.next c a, next a⟩)).workers worker =
            some ⟨hands.next c a, next a⟩ := (setWorker_workers ..).trans (if_pos rfl)
        refine ⟨?_, ?_, ?_⟩
        · intro other after held
          have held' := (setWorker_workers worker other _).symm.trans held
          split at held'
          · obtain rfl := Option.some.inj held'
            exact conducts.2 a _ ⟨rfl, expected⟩
          · rw [frame.workers] at held'
            exact handed.conducted other after held'
        · intro other after held
          have held' := (setWorker_workers worker other _).symm.trans held
          split at held'
          · obtain rfl := Option.some.inj held'
            exact serves_next reporting.lawful conducts.1 serves responded rfl grows fresh
          · rw [frame.workers] at held'
            exact (handed.serves other after held').mono keeps grows
              fun run member => (fresh run member).imp_left And.left
        · intro run member alive'
          rcases member with ⟨old, -⟩ | new
          · rcases handed.attended run old (alive run old) with queued | ⟨other, before, held, has⟩
            · rcases queued_respond reporting conducts.1 serves old careful responded queued with
                queued' | has'
              · exact Or.inl queued'
              · exact Or.inr ⟨worker, _, self, has'⟩
            · by_cases same : other = worker
              · subst same
                rw [only before held] at has
                rcases has_next conducts.1 has a with has' | releases
                · exact Or.inr ⟨_, _, self, has'⟩
                · have queued : u.Queued Q run := released reporting releases responded alive'
                  exact Or.inl queued
              · refine Or.inr ⟨other, before, ?_, has⟩
                rw [← frame.workers] at held
                exact (setWorker_workers ..).trans ((if_neg same).trans held)
          · exact Or.inr ⟨worker, _, self, has_created hands new⟩

theorem handed_start (handed : Handed Q s) {worker : String} {task : WorkerTask Unit}
    (conducts : task.wp (conduct false) (fun _ hands => Clear false hands)
      (fun hands => hands.handing = []) {})
    (moved : s.start worker task = some t) : Handed Q t := by
  unfold start at moved
  cases here : s.workers worker with
  | none =>
    simp only [here, Option.some.injEq] at moved
    subst moved
    refine handed.setWorker ?_ fun before held => ?_
    · rintro begun same
      cases same
      exact ⟨conducts, rfl⟩
    · rw [here] at held
      cases held
  | some busy => simp [here] at moved

theorem handed_act (reporting : Q.Reporting) (handed : Handed Q s)
    (alive : ∀ run ∈ s.fresh, s.Alive run) {label : Label} (handing : s.Handing Q label)
    (moved : s.act Q settings specs label = some t) : Handed Q t := by
  have lawful := reporting.lawful
  cases label with
  | poll worker => exact handed_start handed (wp_processNext specs) moved
  | continueThread worker thread => exact handed_start handed (wp_continueThread_start _) moved
  | proceed worker choose => exact handed_proceed reporting handed alive handing moved
  | stop worker =>
    obtain rfl := Option.some.inj moved
    exact handed.setWorker (by rintro _ ⟨⟩) handing
  | enqueue id type payload now maxAttempts =>
    simp only [act] at moved
    split at moved
    · cases moved
    · next absent =>
      split at moved <;> obtain rfl := Option.some.inj moved
      · next ran =>
        refine handed.frame rfl rfl (JobQueue.keeps_enqueue lawful absent ran)
          ⟨fun _ => le_rfl, fun _ => le_rfl⟩ alive ?_
        rintro run ⟨id', job, stored, other⟩
        refine ⟨id', job, ?_, other⟩
        rw [(lawful.enqueue_ok absent ran).2, if_neg]
        · exact stored
        · rintro rfl
          rw [absent] at stored
          cases stored
      · exact handed
  | otherClaim type workerId now leaseSeconds =>
    simp only [act] at moved
    split at moved
    · cases moved
    · next other =>
      obtain rfl := Option.some.inj moved
      refine handed.frame rfl rfl (JobQueue.keeps_claim lawful rfl)
        ⟨fun _ => le_rfl, fun _ => le_rfl⟩ alive fun run queued => ?_
      refine queued_claim lawful queued ?_ rfl
      intro job due type' _ _
      exact absurd (((JobEnvelope.due_iff.mp due).1 type rfl).symm.trans type') other
  | otherReport jobId verdict now =>
    simp only [act] at moved
    split at moved
    · cases moved
    · next other =>
      obtain rfl := Option.some.inj moved
      have frame := report_frame (Q := Q) (s := s) jobId verdict now
      refine handed.frame frame.workers frame.fresh (report_keeps lawful jobId verdict now)
        (report_grows jobId verdict now) alive fun run queued => ?_
      refine queued_report lawful queued fun job stored type _ => ?_
      simp [stored, type] at other
  | workflow workflow plan =>
    simp only [act] at moved
    split at moved
    · next longer =>
      obtain rfl := Option.some.inj moved
      exact handed.frame rfl rfl (.refl s.queue) (grows_setPlan longer) alive fun _ queued => queued
    · cases moved
  | chat thread store =>
    simp only [act] at moved
    split at moved
    · next longer =>
      obtain rfl := Option.some.inj moved
      exact handed.frame rfl rfl (.refl s.queue) (grows_setThread longer) alive
        fun _ queued => queued
    · cases moved
  | plain id status =>
    obtain rfl := Option.some.inj moved
    exact handed.frame rfl rfl (.refl s.queue) (grows_setStatus (.plain id) status) alive
      fun _ queued => queued

theorem handed_step (reporting : Q.Reporting) (handed : Handed Q s)
    (alive : ∀ run ∈ s.fresh, s.Alive run) {label : Label} (handing : s.Handing Q label)
    (moved : s.step Q settings specs label = some t) :
    Handed Q t ∧ ∀ run ∈ t.fresh, t.Alive run := by
  obtain ⟨u, acted, rfl⟩ := Option.map_eq_some_iff.mp moved
  exact ⟨(handed_act reporting handed alive handing acted).settle, settle_alive⟩

theorem Idle.handed (idle : s.Idle) : Handed Q s where
  conducted worker busy held := by
    rw [idle.workers worker] at held
    cases held
  serves worker busy held := by
    rw [idle.workers worker] at held
    cases held
  attended run member := by
    rw [idle.fresh] at member
    exact member.elim

theorem noOrphan_run (reporting : Q.Reporting) (idle : s.Idle) {schedule : List Label}
    (handing : Machine.Conforms (step Q settings specs) (Handing Q) s schedule)
    (ran : Machine.run (step Q settings specs) s schedule = some t) : NoOrphan Q t := by
  have kept : Handed Q t ∧ ∀ run ∈ t.fresh, t.Alive run :=
    Machine.invariant_conforms (I := fun s => Handed Q s ∧ ∀ run ∈ s.fresh, s.Alive run)
      (fun _ _ _ kept here moved => handed_step reporting kept.1 kept.2 here moved)
      ⟨idle.handed, by rw [idle.fresh]; exact fun _ member => member.elim⟩ handing ran
  exact fun run member => kept.1.attended run member (kept.2 run member)

def vacantWith (messages : List Chat.ChatMessage) (runs : List Chat.ThreadRun) :
    Site (InMemoryJobQueue RunExecutionJob) :=
  { vacant with threads := fun _ => { messages := messages, runs := runs } }

theorem vacantWith_idle (messages : List Chat.ChatMessage) (runs : List Chat.ThreadRun) :
    (vacantWith messages runs).Idle := ⟨fun _ => rfl, rfl, rfl⟩

def continued : List Label :=
  .continueThread "api" "thread" :: List.replicate 7 (.proceed "api" (moment 0))

/-- A worker dies between the creation of the next run and its job; the job is delivered again. -/
def diedBetween : List Label :=
  [.enqueue "job_1" .runExecution ⟨.chat "thread" 0⟩ 0 3, .poll "worker_1"] ++
    List.replicate 14 (.proceed "worker_1" (moment 0)) ++ [.stop "worker_1", .poll "worker_2"] ++
    List.replicate 12 (.proceed "worker_2" (moment (seconds 300)))

def waiting : Site (InMemoryJobQueue RunExecutionJob) :=
  vacantWith [⟨1, false, .inflight⟩, ⟨2, false, .queued⟩] [⟨0, .queued, 1⟩]

theorem diedBetween_at_rest (worker : String) :
    (Machine.final (step (InMemoryJobQueue.queue RunExecutionJob) {}
      fun _ => Workflow.WorkflowStore.twoSteps) waiting diedBetween rfl).workers worker = none := by
  by_cases second : worker = "worker_2"
  · subst second
    rfl
  by_cases first : worker = "worker_1"
  · subst first
    rfl
  iterate 13 refine (Function.update_of_ne second _ _).trans ?_
  iterate 16 refine (Function.update_of_ne first _ _).trans ?_
  rfl

theorem diedBetween_fresh :
    .chat "thread" 1 ∈ (Machine.final (step (InMemoryJobQueue.queue RunExecutionJob) {}
      fun _ => Workflow.WorkflowStore.twoSteps) waiting diedBetween rfl).fresh := by
  have kept : ∀ {fresh done new : Set RunRef} {run : RunRef}, run ∈ fresh → run ∉ done →
      run ∈ (fresh \ done) ∪ new := fun member apart => Or.inl ⟨member, apart⟩
  -- the second worker returns, after eleven calls that execute no such run
  refine ⟨?_, .queued, rfl, rfl⟩
  iterate 11 refine ⟨kept ?_ nofun, .queued, rfl, rfl⟩
  -- it has polled, and the first worker has stopped after its last call, the creation
  exact ⟨⟨⟨Or.inr rfl, .queued, rfl, rfl⟩, .queued, rfl, rfl⟩, .queued, rfl, rfl⟩

end Site

end Taroai.Workers
