import Taroai.Triggers.DueWorker

/-! What an attempt of the trigger worker leaves behind. The runs of a job are counted by their
`births`, which no later update changes; the job itself is followed through the queue by its
attempt budget. A run that exists while its job can be claimed again is what a second run
comes from, so the invariant (`Sound`) forbids exactly that. -/

namespace Taroai.Triggers

open Workers (JobType JobStatus JobEnvelope JobQueue Verdict)

namespace TriggerDueWorker

variable {σ : Type} {Q : JobQueue DuePayload σ} {worker : TriggerDueWorker} {now : Time}
  {faults : DueCall → Fault} {ids : NewIds}

def births (s : DueState σ) : List (String × String) :=
  s.runs.map fun run => (run.jobId, run.id)

structure Quiet (s s' : DueState σ) : Prop where
  queue : s'.queue = s.queue
  triggers : s'.triggers = s.triggers
  births : births s' = births s

theorem Quiet.refl (s : DueState σ) : Quiet s s := ⟨rfl, rfl, rfl⟩

theorem Quiet.trans {s t u : DueState σ} (first : Quiet s t) (second : Quiet t u) : Quiet s u :=
  ⟨second.queue.trans first.queue, second.triggers.trans first.triggers,
    second.births.trans first.births⟩

theorem quiet_updateRunStatus (runId : String) (status : RunStatus) (s : DueState σ) :
    Quiet s (updateRunStatus runId status s).2 := by
  refine ⟨rfl, rfl, ?_⟩
  simp only [births, updateRunStatus, Raising.update_apply, List.map_map]
  refine List.map_congr_left fun run _ => ?_
  rw [Function.comp_apply]
  split <;> rfl

section Perform

variable {α : Type} {c : DueCall} {operation : Operation σ α} {s s' t : DueState σ}
  {r x : Except String α} {b : α}

theorem perform_cases (ran : perform faults c operation s = (r, s'))
    (does : operation s = (x, t)) :
    (faults c = .none ∧ r = x ∧ s' = t) ∨
      (faults c ≠ .none ∧ (∃ error, r = .error error) ∧
        (s' = t ∧ (faults c).isRefused = false ∨ s' = s ∧ (faults c).isRefused = true)) := by
  rw [perform] at ran
  cases fault : faults c with
  | none =>
    rw [fault] at ran
    cases does.symm.trans ran
    exact .inl ⟨rfl, rfl, rfl⟩
  | refused error =>
    rw [fault] at ran
    cases ran
    exact .inr ⟨nofun, ⟨error, rfl⟩, .inr ⟨rfl, rfl⟩⟩
  | lost error =>
    rw [fault] at ran
    cases x with
    | ok a =>
      cases (Raising.bind_of_ok does _).symm.trans ran
      exact .inr ⟨nofun, ⟨error, rfl⟩, .inl ⟨rfl, rfl⟩⟩
    | error message =>
      cases (Raising.bind_of_error does _).symm.trans ran
      exact .inr ⟨nofun, ⟨message, rfl⟩, .inl ⟨rfl, rfl⟩⟩

theorem perform_quiet (ran : perform faults c operation s = (r, s'))
    (does : operation s = (x, t)) (quiet : Quiet s t) : Quiet s s' := by
  rcases perform_cases ran does with ⟨-, -, rfl⟩ | ⟨-, -, ⟨rfl, -⟩ | ⟨rfl, -⟩⟩
  · exact quiet
  · exact quiet
  · exact Quiet.refl _

theorem healthy_of_ok (ran : perform faults c operation s = (.ok b, s'))
    (does : operation s = (x, t)) : faults c = .none ∧ x = .ok b ∧ s' = t := by
  rcases perform_cases ran does with ⟨healthy, same, rfl⟩ | ⟨-, ⟨_, impossible⟩, -⟩
  · exact ⟨healthy, same.symm, rfl⟩
  · cases impossible

theorem faulty_of_error {a : α} {error : String}
    (ran : perform faults c operation s = (.error error, s')) (does : operation s = (.ok a, t)) :
    faults c ≠ .none := by
  intro healthy
  rcases perform_cases ran does with ⟨-, impossible, -⟩ | ⟨faulty, -⟩
  · cases impossible
  · exact faulty healthy

end Perform

/-- `create_run` takes effect once the request is built and the thread, if any, is there. -/
def storesRun (faults : DueCall → Fault) (triggers : TriggerStore) (payload : TriggerDueJob) :
    Bool :=
  match buildRunRequest triggers payload.tenantId payload.triggerId with
  | .error _ => false
  | .ok request =>
    decide (faults .buildRunRequest = .none) &&
      (!request.agentId.any (· ≠ "") ||
        decide (faults .createChatThread = .none ∧ faults .appendChatMessage = .none)) &&
      !(faults .createRun).isRefused

/-- The calls from `create_run` to the end of `_create_run`. -/
structure Recorded (faults : DueCall → Fault) : Prop where
  createRun : faults .createRun = .none
  recordInvoked : faults .recordInvoked = .none
  recordBillingMeter : faults .recordBillingMeter = .none

/-- The calls of `_enqueue_run_execution`. -/
structure Queued (faults : DueCall → Fault) : Prop where
  updateRunStatus : faults .updateRunStatus = .none
  enqueueExecution : faults .enqueueExecution = .none
  appendRunEvent : faults .appendRunEvent = .none

theorem openThread_spec {tenantId : String} {request : TriggerRunRequest} {s s' : DueState σ}
    {r : Except String (Option (String × String))}
    (ran : openThread faults ids tenantId request s = (r, s')) :
    Quiet s s' ∧ ((∃ error, r = .error error) ∨
      (request.agentId.any (· ≠ "") = true →
        faults .createChatThread = .none ∧ faults .appendChatMessage = .none)) := by
  unfold openThread at ran
  cases agent : request.agentId with
  | none =>
    simp only [agent] at ran
    cases ran
    exact ⟨Quiet.refl s, .inr fun named => by cases named⟩
  | some agentId =>
    simp only [agent, Raising.ite_apply] at ran
    split at ran
    · next empty =>
      cases ran
      exact ⟨Quiet.refl s, .inr fun named => by simp [empty] at named⟩
    · rcases Raising.bind_cases ran with ⟨error, first, rfl⟩ | ⟨_, s₁, first, ran⟩
      · exact ⟨perform_quiet first rfl ⟨rfl, rfl, rfl⟩, .inl ⟨error, rfl⟩⟩
      · have quiet := perform_quiet first rfl ⟨rfl, rfl, rfl⟩
        rcases Raising.bind_cases ran with ⟨error, second, rfl⟩ | ⟨_, s₂, second, ran⟩
        · exact ⟨quiet.trans (perform_quiet second rfl ⟨rfl, rfl, rfl⟩), .inl ⟨error, rfl⟩⟩
        · cases ran
          exact ⟨quiet.trans (perform_quiet second rfl ⟨rfl, rfl, rfl⟩),
            .inr fun _ => ⟨(healthy_of_ok first rfl).1, (healthy_of_ok second rfl).1⟩⟩

structure Born (faults : DueCall → Fault) (ids : NewIds) (jobId : String) (s : DueState σ)
    (r : Except String TriggeredRun) (s' : DueState σ) : Prop where
  queue : s'.queue = s.queue
  births : births s' = births s ++ [(jobId, ids.runId)]
  outcome : (∃ run, r = .ok run ∧ run.id = ids.runId) ∨
    (∃ error, r = .error error) ∧ ¬Recorded faults

theorem createRecordedRun_spec {jobId : String} {payload : TriggerDueJob}
    {request : TriggerRunRequest} {thread : Option (String × String)} {s s' : DueState σ}
    {r : Except String TriggeredRun}
    (ran : createRecordedRun worker faults ids jobId payload request thread s = (r, s')) :
    (s' = s ∧ (faults .createRun).isRefused = true ∧ ∃ error, r = .error error) ∨
      (faults .createRun).isRefused = false ∧ Born faults ids jobId s r s' := by
  unfold createRecordedRun at ran
  have births_stored : births (storeRun ids jobId payload.tenantId request thread s).2 =
      births s ++ [(jobId, ids.runId)] := List.map_append
  rcases Raising.bind_cases ran with ⟨error, first, rfl⟩ | ⟨run, s₁, first, afterRun⟩
  · rcases perform_cases first rfl with ⟨-, impossible, -⟩ |
      ⟨faulty, -, ⟨rfl, notRefused⟩ | ⟨rfl, refused⟩⟩
    · cases impossible
    · exact .inr ⟨notRefused, rfl, births_stored,
        .inr ⟨⟨error, rfl⟩, fun recorded => faulty recorded.createRun⟩⟩
    · exact .inl ⟨rfl, refused, error, rfl⟩
  · obtain ⟨healthy, same, rfl⟩ := healthy_of_ok first rfl
    obtain rfl := Except.ok.inj same
    have born : ∀ {error : String} {s₁ : DueState σ},
        Quiet (storeRun ids jobId payload.tenantId request thread s).2 s₁ → ¬Recorded faults →
        Born faults ids jobId s (.error error) s₁ := fun quiet faulty =>
      ⟨quiet.queue, quiet.births.trans births_stored, .inr ⟨⟨_, rfl⟩, faulty⟩⟩
    refine .inr ⟨by rw [healthy]; rfl, ?_⟩
    rcases Raising.bind_cases afterRun with ⟨error, second, rfl⟩ | ⟨_, s₂, second, afterAudit⟩
    · refine born (perform_quiet second rfl ⟨rfl, rfl, rfl⟩) fun recorded => ?_
      exact faulty_of_error second rfl recorded.recordInvoked
    · have audited := perform_quiet second rfl ⟨rfl, rfl, rfl⟩
      rcases Raising.bind_cases afterAudit with ⟨error, third, rfl⟩ | ⟨_, s₃, third, returned⟩
      · refine born (audited.trans (perform_quiet third rfl ⟨rfl, rfl, rfl⟩))
          fun recorded => ?_
        exact faulty_of_error third rfl recorded.recordBillingMeter
      · have metered := audited.trans (perform_quiet third rfl ⟨rfl, rfl, rfl⟩)
        cases returned
        exact ⟨metered.queue, metered.births.trans births_stored, .inl ⟨_, rfl, rfl⟩⟩

theorem createRun_spec {jobId : String} {payload : TriggerDueJob} {s s' : DueState σ}
    {r : Except String TriggeredRun}
    (ran : createRun worker faults ids jobId payload s = (r, s')) :
    (Quiet s s' ∧ ∃ error, r = .error error) ∨
      storesRun faults s.triggers payload = true ∧ Born faults ids jobId s r s' := by
  unfold createRun at ran
  rcases Raising.bind_cases ran with ⟨error, first, rfl⟩ | ⟨request, s₁, first, afterRequest⟩
  · exact .inl ⟨perform_quiet first rfl (Quiet.refl s), error, rfl⟩
  · obtain ⟨asked, built, rfl⟩ := healthy_of_ok first rfl
    rcases Raising.bind_cases afterRequest with ⟨error, second, rfl⟩ |
      ⟨thread, s₂, second, afterThread⟩
    · exact .inl ⟨(openThread_spec second).1, error, rfl⟩
    · obtain ⟨quiet, ⟨_, impossible⟩ | opened⟩ := openThread_spec second
      · cases impossible
      · rcases createRecordedRun_spec afterThread with ⟨rfl, -, failed⟩ | ⟨kept, born⟩
        · exact .inl ⟨quiet, failed⟩
        · refine .inr ⟨?_, born.queue.trans quiet.queue,
            born.births.trans (by rw [quiet.births]), born.outcome⟩
          simp only [storesRun, built, asked, kept, decide_true, Bool.true_and, Bool.not_false,
            Bool.and_true, Bool.or_eq_true, Bool.not_eq_true', decide_eq_true_eq]
          cases named : request.agentId.any (· ≠ "") with
          | false => exact .inl rfl
          | true => exact .inr (opened named)

def Enqueued (Q : JobQueue DuePayload σ) (worker : TriggerDueWorker) (now : Time) (ids : NewIds)
    (before after : σ) : Prop :=
  ∃ job execution, Q.enqueue before ids.jobId .runExecution (.runExecution execution) now
    worker.maxAttempts = .ok (job, after) ∧ job.payload = .runExecution execution ∧
    execution.runId = ids.runId

theorem enqueueRunExecution_spec (reporting : Q.Reporting) {payload : TriggerDueJob}
    {run : TriggeredRun} (named : run.id = ids.runId) {s s' : DueState σ}
    {r : Except String (JobEnvelope DuePayload)}
    (ran : enqueueRunExecution Q worker now faults ids payload run s = (r, s')) :
    births s' = births s ∧ ((∃ job, r = .ok job) ∧ Enqueued Q worker now ids s.queue s'.queue ∨
      ((∃ error, r = .error error) ∧ ¬Queued faults ∧
        (s'.queue = s.queue ∨ Enqueued Q worker now ids s.queue s'.queue))) := by
  unfold enqueueRunExecution at ran
  have updated := quiet_updateRunStatus run.id .queued s
  rcases Raising.bind_cases ran with ⟨error, first, rfl⟩ | ⟨_, s₁, first, afterStatus⟩
  · have quiet := perform_quiet first rfl updated
    exact ⟨quiet.births, .inr ⟨⟨error, rfl⟩,
      fun queued => faulty_of_error first rfl queued.updateRunStatus, .inl quiet.queue⟩⟩
  · have quiet := perform_quiet first rfl updated
    obtain ⟨job, queue, accepted, -, same⟩ := reporting.accepts s.queue ids.jobId .runExecution
      (.runExecution ⟨run.tenantId, run.workspaceId, run.userId, run.id,
        payload.requestedByUserId⟩) now worker.maxAttempts worker.maxAttempts_pos
    have enqueued : Enqueued Q worker now ids s.queue queue := ⟨job, _, accepted, same, named⟩
    have does : enqueueExecution Q worker now ids payload run s₁ =
        (.ok job, { s₁ with queue := queue }) := by
      simp only [enqueueExecution, quiet.queue, accepted]
    rcases Raising.bind_cases afterStatus with ⟨error, second, rfl⟩ | ⟨_, s₂, second, afterJob⟩
    · have faulty : ¬Queued faults :=
        fun queued => faulty_of_error second does queued.enqueueExecution
      rcases perform_cases second does with ⟨-, impossible, -⟩ | ⟨-, -, ⟨rfl, -⟩ | ⟨rfl, -⟩⟩
      · cases impossible
      · exact ⟨quiet.births, .inr ⟨⟨error, rfl⟩, faulty, .inr enqueued⟩⟩
      · exact ⟨quiet.births, .inr ⟨⟨error, rfl⟩, faulty, .inl quiet.queue⟩⟩
    · obtain ⟨-, -, rfl⟩ := healthy_of_ok second does
      rcases Raising.bind_cases afterJob with ⟨error, third, rfl⟩ | ⟨_, s₃, third, returned⟩
      · have logged := perform_quiet third rfl ⟨rfl, rfl, rfl⟩
        refine ⟨logged.births.trans quiet.births, .inr ⟨⟨error, rfl⟩, ?_, .inr ?_⟩⟩
        · exact fun queued => faulty_of_error third rfl queued.appendRunEvent
        · rwa [logged.queue]
      · have logged := perform_quiet third rfl ⟨rfl, rfl, rfl⟩
        cases returned
        exact ⟨logged.births.trans quiet.births, .inl ⟨⟨_, rfl⟩, by rwa [logged.queue]⟩⟩

/-- What the `try` block leaves. -/
structure Invoked (Q : JobQueue DuePayload σ) (worker : TriggerDueWorker) (now : Time)
    (faults : DueCall → Fault) (ids : NewIds) (jobId : String) (payload : TriggerDueJob)
    (s : DueState σ) (returned : Bool) (s' : DueState σ) : Prop where
  stores : storesRun faults s.triggers payload = true
  births : births s' = births s ++ [(jobId, ids.runId)]
  outcome : returned = true ∧ Enqueued Q worker now ids s.queue s'.queue ∨
    returned = false ∧ ¬(Recorded faults ∧ Queued faults) ∧
      (s'.queue = s.queue ∨ Enqueued Q worker now ids s.queue s'.queue)

theorem invoke_spec (reporting : Q.Reporting) {jobId : String} {payload : TriggerDueJob}
    {s s' : DueState σ} {r : Except String (TriggeredRun × JobEnvelope DuePayload)}
    (ran : invoke Q worker now faults ids jobId payload s = (r, s')) :
    (Quiet s s' ∧ ∃ error, r = .error error) ∨
      Invoked Q worker now faults ids jobId payload s r.toBool s' := by
  unfold invoke at ran
  rcases Raising.bind_cases ran with ⟨error, first, rfl⟩ | ⟨run, s₁, first, afterRun⟩
  · rcases createRun_spec first with ⟨quiet, -⟩ | ⟨stores, queue, births, outcome⟩
    · exact .inl ⟨quiet, error, rfl⟩
    · rcases outcome with ⟨_, impossible, -⟩ | ⟨-, faulty⟩
      · cases impossible
      · exact .inr ⟨stores, births, .inr ⟨rfl, fun both => faulty both.1, .inl queue⟩⟩
  · rcases createRun_spec first with ⟨-, _, impossible⟩ | ⟨stores, queue, births, outcome⟩
    · cases impossible
    · rcases outcome with ⟨_, same, named⟩ | ⟨⟨_, impossible⟩, -⟩
      · obtain rfl := Except.ok.inj same
        rcases Raising.bind_cases afterRun with ⟨error, second, rfl⟩ | ⟨_, s₂, second, returned⟩
        · obtain ⟨kept, ⟨⟨_, impossible⟩, -⟩ | ⟨-, faulty, queued⟩⟩ :=
            enqueueRunExecution_spec reporting named second
          · cases impossible
          · refine .inr ⟨stores, kept.trans births, .inr ⟨rfl, fun both => faulty both.2, ?_⟩⟩
            rwa [queue] at queued
        · obtain ⟨kept, ⟨-, queued⟩ | ⟨⟨_, impossible⟩, -⟩⟩ :=
            enqueueRunExecution_spec reporting named second
          · cases returned
            refine .inr ⟨stores, kept.trans births, .inl ⟨rfl, ?_⟩⟩
            rwa [queue] at queued
          · cases impossible
      · cases impossible

end TriggerDueWorker

end Taroai.Triggers
