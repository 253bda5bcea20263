import Taroai.Triggers.DueRuns
import Taroai.Workers.MemoryQueue

/-! At most one run for a trigger-due job, and one with its execution job once the job is
acknowledged. A run that was created stays when a later call fails, so the attempt that created
it has to be the last one of its job. -/

namespace Taroai.Triggers

open Workers (JobType JobStatus JobEnvelope JobQueue Verdict)

namespace DueState

variable {σ : Type} {Q : JobQueue DuePayload σ} {worker : TriggerDueWorker}

def createsRun (Q : JobQueue DuePayload σ) (worker : TriggerDueWorker) (s : DueState σ) (now : Time)
    (faults : DueCall → Fault) : Option (JobEnvelope DuePayload) :=
  if faults .claim = .none ∧ (worker.audited = true → faults .recordStarted = .none) then
    (Q.claim s.queue .triggerDue worker.workerId now worker.leaseSeconds).1.filter fun job =>
      match job.payload with
      | .runExecution _ => false
      | .triggerDue payload => TriggerDueWorker.storesRun faults s.triggers payload
  else none

/-- No call from `create_run` to the acknowledgement fails. -/
structure Undisturbed (faults : DueCall → Fault) : Prop where
  recorded : TriggerDueWorker.Recorded faults
  queued : TriggerDueWorker.Queued faults
  acked : (faults .ack).isRefused = false

def Completes (Q : JobQueue DuePayload σ) (worker : TriggerDueWorker) (s : DueState σ) :
    DueMove → Prop
  | .process now faults _ => ∀ job ∈ createsRun Q worker s now faults,
      Undisturbed faults ∨ job.attempts = job.maxAttempts
  | .enqueue _ _ _ _ | .edit _ => True

def runsOf (s : DueState σ) (jobId : String) : List TriggeredRun :=
  s.runs.filter fun run => run.jobId = jobId

def HasExecution (Q : JobQueue DuePayload σ) (queue : σ) (runId : String) : Prop :=
  ∃ id job execution, Q.get? queue id = some job ∧ job.payload = .runExecution execution ∧
    execution.runId = runId

def runIds (s : DueState σ) (jobId : String) : List String :=
  ((TriggerDueWorker.births s).filter fun birth => birth.1 = jobId).map Prod.snd

theorem runIds_eq (s : DueState σ) (jobId : String) :
    s.runIds jobId = (s.runsOf jobId).map TriggeredRun.id := by
  simp only [runIds, runsOf, TriggerDueWorker.births, List.filter_map, List.map_map]
  rfl

structure SoundJob (Q : JobQueue DuePayload σ) (queue : σ) (job : JobEnvelope DuePayload)
    (runIds : List String) : Prop where
  budgeted : job.Budgeted
  unborn : job.status ≠ .succeeded → job.attempts < job.maxAttempts → runIds = []
  done : (∃ payload, job.payload = .triggerDue payload) → job.status = .succeeded →
    ∃ runId, runIds = [runId] ∧ HasExecution Q queue runId

structure Sound (Q : JobQueue DuePayload σ) (s : DueState σ) : Prop where
  jobs : ∀ k job, Q.get? s.queue k = some job → SoundJob Q s.queue job (s.runIds k)
  atMostOne : ∀ k, (s.runIds k).length ≤ 1
  known : ∀ k, Q.get? s.queue k = none → s.runIds k = []

def Keeps (Q : JobQueue DuePayload σ) (before after : σ) : Prop :=
  ∀ k job, Q.get? before k = some job →
    ∃ job', Q.get? after k = some job' ∧ job'.payload = job.payload

theorem HasExecution.mono {before after : σ} {runId : String} (keeps : Keeps Q before after)
    (has : HasExecution Q before runId) : HasExecution Q after runId := by
  obtain ⟨id, job, execution, stored, payload, named⟩ := has
  obtain ⟨job', stored', same⟩ := keeps id job stored
  exact ⟨id, job', execution, stored', same.trans payload, named⟩

section Jobs

variable {before after : σ} {job : JobEnvelope DuePayload} {ids : List String}

theorem SoundJob.mono (keeps : Keeps Q before after) (sound : SoundJob Q before job ids) :
    SoundJob Q after job ids where
  budgeted := sound.budgeted
  unborn := sound.unborn
  done due acked :=
    let ⟨runId, one, has⟩ := sound.done due acked
    ⟨runId, one, has.mono keeps⟩

theorem SoundJob.returned (sound : SoundJob Q before job ids) (open_ : job.status ≠ .succeeded)
    (error : String) (availableAt now : Time) :
    SoundJob Q after (job.returned error availableAt now) ids where
  budgeted := JobEnvelope.returned_budgeted sound.budgeted error availableAt now
  unborn := by
    intro _ left
    rw [JobEnvelope.returned_attempts, JobEnvelope.returned_maxAttempts] at left
    exact sound.unborn open_ left
  done := by
    intro _ acked
    rw [JobEnvelope.returned_status] at acked
    split at acked <;> cases acked

theorem SoundJob.swept (sound : SoundJob Q before job ids) (keeps : Keeps Q before after)
    (jobType : Option JobType) (error : String) (now : Time) :
    SoundJob Q after (job.swept jobType error now) ids := by
  unfold JobEnvelope.swept
  split
  · next due =>
    have running := JobEnvelope.running_of_due due
    exact sound.returned (by simp [running]) error now now
  · exact sound.mono keeps

end Jobs

section Steps

variable {s s' : DueState σ} {now : Time} {faults : DueCall → Fault} {ids : NewIds}

theorem Sound.of_jobs (sound : Sound Q s) {queue : σ}
    (absent : ∀ k, Q.get? queue k = none → Q.get? s.queue k = none)
    (jobs : ∀ k job, Q.get? queue k = some job → SoundJob Q queue job (s.runIds k)) :
    Sound Q { s with queue := queue } where
  jobs := jobs
  atMostOne := sound.atMostOne
  known k missing := sound.known k (absent k missing)

theorem sound_swept (sound : Sound Q s) {queue : σ} {jobType : Option JobType} {error : String}
    (keeps : Keeps Q s.queue queue) {k : String} {job : JobEnvelope DuePayload}
    (stored : ((Q.get? s.queue k).map fun j => j.swept jobType error now) = some job) :
    SoundJob Q queue job (s.runIds k) := by
  obtain ⟨old, present, rfl⟩ := Option.map_eq_some_iff.mp stored
  exact (sound.jobs k old present).swept keeps jobType error now

theorem sound_claim (lawful : Q.Lawful) (sound : Sound Q s) {jobType : JobType} {workerId : String}
    {leaseSeconds : Int} {claimed : Option (JobEnvelope DuePayload)} {queue : σ}
    (ran : Q.claim s.queue jobType workerId now leaseSeconds = (claimed, queue)) :
    Sound Q { s with queue := queue } ∧ ∀ job ∈ claimed,
      Q.get? queue job.id = some job ∧ job.status = .running ∧ s.runIds job.id = [] := by
  cases claimed with
  | none =>
    have after := lawful.claim_none ran
    have keeps : Keeps Q s.queue queue := by
      intro k job stored
      refine ⟨job.swept (some jobType) Workers.leaseExpiredError now, ?_,
        JobEnvelope.swept_payload ..⟩
      rw [after, stored, Option.map_some]
    refine ⟨sound.of_jobs (fun k missing => ?_) fun k job stored => ?_,
      fun _ impossible => by cases impossible⟩
    · rwa [after, Option.map_eq_none_iff] at missing
    · exact sound_swept sound keeps ((after k).symm.trans stored)
  | some claimed =>
    obtain ⟨job, before, pending, rfl, after⟩ := lawful.claim_some ran
    have keeps : Keeps Q s.queue queue := by
      intro k old stored
      rw [after]
      split
      · next same =>
        subst same
        rw [stored, Option.map_some, Option.some.injEq] at before
        refine ⟨_, rfl, ?_⟩
        rw [JobEnvelope.claimedBy_payload, ← before, JobEnvelope.swept_payload]
      · refine ⟨old.swept (some jobType) Workers.leaseExpiredError now, ?_,
          JobEnvelope.swept_payload ..⟩
        rw [stored, Option.map_some]
    have taken := sound_swept sound keeps before
    have spare := taken.budgeted.spare pending
    have unborn : s.runIds job.id = [] := taken.unborn (by simp [pending]) spare
    have handed : SoundJob Q queue (job.claimedBy workerId now leaseSeconds) (s.runIds job.id) :=
      ⟨JobEnvelope.claimedBy_budgeted taken.budgeted pending workerId now leaseSeconds,
        fun _ _ => unborn, fun _ impossible => by cases impossible⟩
    refine ⟨sound.of_jobs (fun k missing => ?_) fun k other stored => ?_, ?_⟩
    · rw [after] at missing
      split at missing
      · cases missing
      · rwa [Option.map_eq_none_iff] at missing
    · rw [after] at stored
      split at stored
      · next same =>
        cases stored
        exact same ▸ handed
      · exact sound_swept sound keeps stored
    · rintro _ ⟨⟩
      exact ⟨(after job.id).trans (if_pos rfl), rfl, unborn⟩

theorem absent_after_claim (lawful : Q.Lawful) {before after : σ} {jobType : JobType}
    {workerId : String} {leaseSeconds : Int} {claimed : Option (JobEnvelope DuePayload)}
    (ran : Q.claim before jobType workerId now leaseSeconds = (claimed, after)) {k : String}
    (absent : Q.get? before k = none) : Q.get? after k = none := by
  cases claimed with
  | none => rw [lawful.claim_none ran, absent, Option.map_none]
  | some claimed =>
    obtain ⟨job, stored, -, -, lookup⟩ := lawful.claim_some ran
    rw [lookup]
    split
    · next same =>
      subst same
      rw [absent] at stored
      cases stored
    · rw [absent, Option.map_none]

theorem runIds_of_births (same : TriggerDueWorker.births s' = TriggerDueWorker.births s)
    (k : String) : s'.runIds k = s.runIds k := by
  rw [runIds, same, runIds]

theorem Sound.quiet (sound : Sound Q s) (quiet : TriggerDueWorker.Quiet s s') : Sound Q s' where
  jobs := by
    intro k job stored
    rw [quiet.queue] at stored ⊢
    rw [runIds_of_births quiet.births]
    exact sound.jobs k job stored
  atMostOne k := by
    rw [runIds_of_births quiet.births]
    exact sound.atMostOne k
  known k missing := by
    rw [quiet.queue] at missing
    rw [runIds_of_births quiet.births]
    exact sound.known k missing

def Enlarged (Q : JobQueue DuePayload σ) (before after : σ) : Prop :=
  ∀ k, Q.get? after k = Q.get? before k ∨ Q.get? before k = none ∧
    ∃ job, Q.get? after k = some job ∧ job.status = .pending ∧ job.attempts = 0

theorem enlarged_enqueue (lawful : Q.Lawful) {before after : σ} {id : String} {type : JobType}
    {payload : DuePayload} {maxAttempts : Nat} {job : JobEnvelope DuePayload}
    (fresh : Q.get? before id = none)
    (ran : Q.enqueue before id type payload now maxAttempts = .ok (job, after)) :
    Enlarged Q before after := by
  obtain ⟨⟨pending, unused⟩, lookup⟩ := lawful.enqueue_ok fresh ran
  intro k
  rw [lookup]
  split
  · next same => exact .inr ⟨same ▸ fresh, job, rfl, pending, unused⟩
  · exact .inl rfl

theorem Enlarged.stored {before after : σ} (enlarged : Enlarged Q before after) {k : String}
    {job : JobEnvelope DuePayload} (present : Q.get? before k = some job) :
    Q.get? after k = some job := by
  rcases enlarged k with same | ⟨absent, -⟩
  · rw [same, present]
  · rw [present] at absent
    cases absent

theorem Enlarged.keeps {before after : σ} (enlarged : Enlarged Q before after) :
    Keeps Q before after := fun _ job present => ⟨job, enlarged.stored present, rfl⟩

theorem soundJob_new {queue : σ} {job : JobEnvelope DuePayload} (pending : job.status = .pending)
    (unused : job.attempts = 0) : SoundJob Q queue job [] where
  budgeted :=
    have positive := job.maxAttempts_pos
    ⟨by omega, fun _ => by omega⟩
  unborn _ _ := rfl
  done _ acked := by
    rw [pending] at acked
    cases acked

theorem Sound.settle (sound : Sound Q s) {id : String} {enlarged : σ}
    (grows : Enlarged Q s.queue enlarged)
    (others : ∀ k, k ≠ id → Q.get? s'.queue k = Q.get? enlarged k ∧ s'.runIds k = s.runIds k)
    (keeps : Keeps Q s.queue s'.queue) (one : (s'.runIds id).length ≤ 1)
    (mine : ∃ job, Q.get? s'.queue id = some job ∧ SoundJob Q s'.queue job (s'.runIds id)) :
    Sound Q s' where
  jobs := by
    intro k job stored
    by_cases same : k = id
    · subst same
      obtain ⟨_, there, soundJob⟩ := mine
      cases there.symm.trans stored
      exact soundJob
    · obtain ⟨lookup, runs⟩ := others k same
      rw [runs]
      rcases grows k with old | ⟨absent, new, added, pending, unused⟩
      · exact (sound.jobs k job (by rw [← old, ← lookup, stored])).mono keeps
      · cases added.symm.trans (lookup.symm.trans stored)
        rw [sound.known k absent]
        exact soundJob_new pending unused
  atMostOne k := by
    by_cases same : k = id
    · exact same ▸ one
    · rw [(others k same).2]
      exact sound.atMostOne k
  known k missing := by
    by_cases same : k = id
    · subst same
      obtain ⟨_, there, -⟩ := mine
      rw [there] at missing
      cases missing
    · obtain ⟨lookup, runs⟩ := others k same
      rw [runs]
      refine sound.known k ?_
      rcases grows k with old | ⟨absent, -⟩
      · rw [← old, ← lookup, missing]
      · exact absent

theorem soundJob_exhausted {queue : σ} {job : JobEnvelope DuePayload} (budgeted : job.Budgeted)
    (exhausted : job.attempts = job.maxAttempts) (open_ : job.status ≠ .succeeded)
    (runIds : List String) : SoundJob Q queue job runIds where
  budgeted := budgeted
  unborn _ left := absurd exhausted (Nat.ne_of_lt left)
  done _ acked := absurd acked open_

open TriggerDueWorker in
theorem sound_finish (lawful : Q.Lawful) {s₂ : DueState σ} (sound : Sound Q s)
    {job : JobEnvelope DuePayload} (stored : Q.get? s.queue job.id = some job)
    (grows : Enlarged Q s.queue s₂.queue) (others : ∀ k, k ≠ job.id → s₂.runIds k = s.runIds k)
    (one : (s₂.runIds job.id).length ≤ 1) {call : DueCall} {verdict : Verdict}
    {r : Except String (JobEnvelope DuePayload)}
    (ran : perform faults call (finish Q now job.id verdict) s₂ = (r, s'))
    (unreported : (faults call).isRefused = true →
      SoundJob Q s₂.queue job (s₂.runIds job.id))
    (reported : ∀ queue, Keeps Q s₂.queue queue →
      SoundJob Q queue (job.finished verdict now) (s₂.runIds job.id)) : Sound Q s' := by
  have here := grows.stored stored
  obtain ⟨queue, finished, lookup⟩ := lawful.finish_some here verdict now
  have does : finish Q now job.id verdict s₂ =
      (.ok (job.finished verdict now), { s₂ with queue := queue }) := by
    simp only [finish, finished]
  have keeps : Keeps Q s₂.queue queue := by
    intro k old present
    rw [lookup]
    split
    · next same =>
      cases here.symm.trans (same ▸ present)
      exact ⟨_, rfl, JobEnvelope.finished_payload ..⟩
    · exact ⟨old, present, rfl⟩
  have effect : Sound Q { s₂ with queue := queue } := by
    refine sound.settle grows (fun k other => ⟨?_, others k other⟩)
      (fun k old present => ?_) one ⟨_, (lookup job.id).trans (if_pos rfl), reported queue keeps⟩
    · exact (lookup k).trans (if_neg other)
    · exact keeps k old (grows.stored present)
  rcases perform_cases ran does with ⟨-, -, rfl⟩ | ⟨-, -, ⟨rfl, -⟩ | ⟨rfl, refused⟩⟩
  · exact effect
  · exact effect
  · exact sound.settle grows (fun k other => ⟨rfl, others k other⟩) grows.keeps one
      ⟨job, here, unreported refused⟩

open TriggerDueWorker in
theorem quiet_recordJobAudit {call : DueCall} {eventType : String} {job : JobEnvelope DuePayload}
    {r : Except String Unit} (ran : recordJobAudit worker faults call eventType job s = (r, s')) :
    Quiet s s' ∧ ((∃ error, r = .error error) ∨ (worker.audited = true → faults call = .none)) := by
  unfold recordJobAudit at ran
  rw [Raising.ite_apply] at ran
  split at ran
  · refine ⟨perform_quiet ran rfl ⟨rfl, rfl, rfl⟩, ?_⟩
    rcases perform_cases ran rfl with ⟨healthy, -, -⟩ | ⟨-, failed, -⟩
    · exact .inr fun _ => healthy
    · exact .inl failed
  · next silent =>
    cases ran
    exact ⟨Quiet.refl s, .inr fun audited => absurd audited silent⟩

open TriggerDueWorker in
theorem sound_attempt (reporting : Q.Reporting) (sound : Sound Q s)
    {job : JobEnvelope DuePayload} {payload : TriggerDueJob}
    (stored : Q.get? s.queue job.id = some job) (running : job.status = .running)
    (unborn : s.runIds job.id = []) (fresh : Q.get? s.queue ids.jobId = none)
    (completes : storesRun faults s.triggers payload = true →
      Undisturbed faults ∨ job.attempts = job.maxAttempts) {s₂ : DueState σ}
    {r : Except String (TriggeredRun × JobEnvelope DuePayload)}
    (ran : invoke Q worker now faults ids job.id payload s = (r, s₂)) :
    (∀ error r' s', r = .error error → perform faults .reject
      (finish Q now job.id (.reject error worker.retryDelaySeconds)) s₂ = (r', s') → Sound Q s') ∧
    (∀ result r' s', r = .ok result →
      perform faults .ack (finish Q now job.id .ack) s₂ = (r', s') → Sound Q s') := by
  have lawful := reporting.lawful
  have mine := sound.jobs job.id job stored
  have open_ : job.status ≠ .succeeded := by simp [running]
  rcases invoke_spec reporting ran with ⟨quiet, error, rfl⟩ | ⟨stores, born, outcome⟩
  · have same : s₂.runIds job.id = s.runIds job.id := runIds_of_births quiet.births _
    refine ⟨fun error r' s' _ report => ?_, fun _ _ _ impossible => by cases impossible⟩
    refine sound_finish lawful sound stored (fun k => .inl (by rw [quiet.queue]))
      (fun k _ => runIds_of_births quiet.births k) (by simp [same, unborn]) report (fun _ => ?_)
      fun queue keeps => ?_
    · rw [same, quiet.queue]
      exact mine
    · rw [same]
      exact mine.returned open_ error _ now
  · have one : s₂.runIds job.id = [ids.runId] := by
      have before : ((births s).filter fun birth => birth.1 = job.id).map Prod.snd = [] := unborn
      simp [runIds, born, before]
    have others : ∀ k, k ≠ job.id → s₂.runIds k = s.runIds k := by
      intro k other
      simp [runIds, born, Ne.symm other]
    have grown : ∀ {queue : σ}, Enqueued Q worker now ids s.queue queue →
        Enlarged Q s.queue queue := by
      rintro queue ⟨_, _, enqueued, -, -⟩
      exact enlarged_enqueue lawful fresh enqueued
    have atMost : (s₂.runIds job.id).length ≤ 1 := by simp [one]
    refine ⟨?_, ?_⟩
    · rintro error r' s' rfl report
      rcases outcome with ⟨impossible, -⟩ | ⟨-, faulty, queued⟩
      · cases impossible
      · -- the run stays, so this has to be the last attempt
        have exhausted : job.attempts = job.maxAttempts :=
          (completes stores).resolve_left fun healthy => faulty ⟨healthy.recorded, healthy.queued⟩
        have grows : Enlarged Q s.queue s₂.queue := by
          rcases queued with same | enqueued
          · exact fun k => .inl (by rw [same])
          · exact grown enqueued
        refine sound_finish lawful sound stored grows others atMost report (fun _ => ?_) fun _ _ => ?_
        · exact soundJob_exhausted mine.budgeted exhausted open_ _
        · have left : SoundJob Q s₂.queue job (s₂.runIds job.id) :=
            soundJob_exhausted mine.budgeted exhausted open_ _
          exact left.returned open_ error _ now
    · rintro result r' s' rfl report
      rcases outcome with ⟨-, enqueued⟩ | ⟨impossible, -⟩
      · have grows := grown enqueued
        refine sound_finish lawful sound stored grows others atMost report (fun refused => ?_)
          fun queue keeps => ?_
        · have exhausted : job.attempts = job.maxAttempts :=
            (completes stores).resolve_left fun healthy => by
              rw [healthy.acked] at refused
              cases refused
          exact soundJob_exhausted mine.budgeted exhausted open_ _
        · refine ⟨JobEnvelope.finished_budgeted mine.budgeted .ack now,
            fun unacked => absurd rfl unacked, fun _ _ => ⟨ids.runId, one, ?_⟩⟩
          obtain ⟨new, execution, enqueued, payload_eq, named⟩ := enqueued
          obtain ⟨-, lookup⟩ := lawful.enqueue_ok fresh enqueued
          have has : HasExecution Q s₂.queue ids.runId :=
            ⟨ids.jobId, new, execution, (lookup _).trans (if_pos rfl), payload_eq, named⟩
          exact has.mono keeps
      · cases impossible

open TriggerDueWorker in
theorem sound_rest (reporting : Q.Reporting) (sound : Sound Q s)
    {job : JobEnvelope DuePayload} {payload : TriggerDueJob}
    (stored : Q.get? s.queue job.id = some job) (running : job.status = .running)
    (unborn : s.runIds job.id = []) (fresh : Q.get? s.queue ids.jobId = none)
    (completes : storesRun faults s.triggers payload = true →
      Undisturbed faults ∨ job.attempts = job.maxAttempts) :
    Sound Q (attemptAndReport Q worker now faults ids job payload s).2 := by
  rcases ran : attemptAndReport Q worker now faults ids job payload s with ⟨r, s'⟩
  rcases invoked : invoke Q worker now faults ids job.id payload s with ⟨outcome, s₂⟩
  have does : attempt (invoke Q worker now faults ids job.id payload) s = (.ok outcome, s₂) := by
    simp only [attempt, invoked]
  rw [attemptAndReport, Raising.bind_of_ok does] at ran
  have reports := sound_attempt reporting sound stored running unborn fresh completes invoked
  cases outcome with
  | error error =>
    rcases Raising.bind_cases ran with ⟨_, report, rfl⟩ | ⟨rejected, s₃, report, afterReport⟩
    · exact reports.1 error _ _ rfl report
    · have settled := reports.1 error _ _ rfl report
      rcases Raising.bind_cases afterReport with ⟨_, audit, rfl⟩ | ⟨_, s₄, audit, returned⟩
      · exact settled.quiet (quiet_recordJobAudit audit).1
      · cases returned
        exact settled.quiet (quiet_recordJobAudit audit).1
  | ok result =>
    rcases Raising.bind_cases ran with ⟨_, report, rfl⟩ | ⟨completed, s₃, report, afterReport⟩
    · exact reports.2 result _ _ rfl report
    · have settled := reports.2 result _ _ rfl report
      rcases Raising.bind_cases afterReport with ⟨_, audit, rfl⟩ | ⟨_, s₄, audit, returned⟩
      · exact settled.quiet (quiet_recordJobAudit audit).1
      · cases returned
        exact settled.quiet (quiet_recordJobAudit audit).1

open TriggerDueWorker in
theorem sound_process (reporting : Q.Reporting) (sound : Sound Q s)
    (fresh : Q.get? s.queue ids.jobId = none)
    (completes : Completes Q worker s (.process now faults ids)) :
    Sound Q (worker.processNext Q now faults ids s).2 := by
  rcases ran : worker.processNext Q now faults ids s with ⟨r, s'⟩
  rcases taken : Q.claim s.queue .triggerDue worker.workerId now worker.leaseSeconds with
    ⟨claimed, queue⟩
  have does : claim Q worker now s = (.ok claimed, { s with queue := queue }) := by
    simp only [claim, taken]
  obtain ⟨swept, handed⟩ := sound_claim reporting.lawful sound taken
  unfold processNext at ran
  rcases Raising.bind_cases ran with ⟨error, first, rfl⟩ | ⟨job?, s₁, first, afterClaim⟩
  · rcases perform_cases first does with ⟨-, -, rfl⟩ | ⟨-, -, ⟨rfl, -⟩ | ⟨rfl, -⟩⟩
    · exact swept
    · exact swept
    · exact sound
  · obtain ⟨claimedOk, same, rfl⟩ := healthy_of_ok first does
    obtain rfl := Except.ok.inj same
    cases claimed with
    | none =>
      cases afterClaim
      exact swept
    | some job =>
      obtain ⟨stored, running, unborn⟩ := handed job rfl
      simp only at afterClaim
      cases kind : job.payload with
      | runExecution execution =>
        simp only [kind] at afterClaim
        cases afterClaim
        exact swept
      | triggerDue payload =>
        simp only [kind] at afterClaim
        rcases Raising.bind_cases afterClaim with ⟨error, second, rfl⟩ | ⟨_, s₂, second, afterStart⟩
        · exact swept.quiet (quiet_recordJobAudit second).1
        · obtain ⟨quiet, ⟨_, impossible⟩ | startedOk⟩ := quiet_recordJobAudit second
          · cases impossible
          · have later := swept.quiet quiet
            have absent : Q.get? s₂.queue ids.jobId = none := by
              rw [quiet.queue]
              exact absent_after_claim reporting.lawful taken fresh
            have present : Q.get? s₂.queue job.id = some job := by
              rw [quiet.queue]
              exact stored
            have allowed : storesRun faults s₂.triggers payload = true →
                Undisturbed faults ∨ job.attempts = job.maxAttempts := by
              intro stores
              rw [quiet.triggers] at stores
              refine completes job ?_
              rw [createsRun, if_pos ⟨claimedOk, startedOk⟩, taken, Option.mem_def,
                Option.filter_some, if_pos]
              simpa only [kind] using stores
            have finished :
                Sound Q (attemptAndReport Q worker now faults ids job payload s₂).2 :=
              sound_rest reporting later present running
                ((runIds_of_births quiet.births job.id).trans unborn) absent allowed
            rwa [afterStart] at finished

theorem sound_step (reporting : Q.Reporting) {m : DueMove} (sound : Sound Q s)
    (completes : Completes Q worker s m) (moved : step Q worker s m = some s') : Sound Q s' := by
  cases m with
  | enqueue id payload now maxAttempts =>
    simp only [step] at moved
    split at moved
    · cases moved
    · next fresh =>
      split at moved
      · next job queue ran =>
        cases moved
        have grows := enlarged_enqueue reporting.lawful fresh ran
        refine sound.of_jobs (fun k missing => ?_) fun k other stored => ?_
        · rcases grows k with same | ⟨absent, -⟩
          · rw [← same, missing]
          · exact absent
        · rcases grows k with same | ⟨absent, new, added, pending, unused⟩
          · exact (sound.jobs k other (by rw [← same, stored])).mono grows.keeps
          · cases added.symm.trans stored
            rw [sound.known k absent]
            exact soundJob_new pending unused
      · cases moved
        exact sound
  | edit triggers =>
    cases moved
    exact ⟨sound.jobs, sound.atMostOne, sound.known⟩
  | process now faults ids =>
    simp only [step] at moved
    split at moved
    · next fresh =>
      cases moved
      exact sound_process reporting sound (Option.isNone_iff_eq_none.mp fresh.1) completes
    · cases moved

end Steps

/-- At most one run for the job, and one with an execution job once the job is acknowledged. -/
structure OneRun (Q : JobQueue DuePayload σ) (s : DueState σ) (jobId : String) : Prop where
  atMostOne : (s.runsOf jobId).length ≤ 1
  acknowledged : ∀ job payload, Q.get? s.queue jobId = some job →
    job.payload = .triggerDue payload → job.status = .succeeded →
    ∃ run, s.runsOf jobId = [run] ∧ HasExecution Q s.queue run.id

theorem oneRun_of_sound {s : DueState σ} (sound : Sound Q s) (jobId : String) :
    OneRun Q s jobId where
  atMostOne := by
    have one := sound.atMostOne jobId
    rwa [runIds_eq, List.length_map] at one
  acknowledged := by
    intro job payload stored kind acked
    obtain ⟨runId, one, has⟩ := (sound.jobs jobId job stored).done ⟨payload, kind⟩ acked
    rw [runIds_eq, List.map_eq_singleton_iff] at one
    obtain ⟨run, same, rfl⟩ := one
    exact ⟨run, same, has⟩

/-- Over any run of the worker whose attempts complete once they have created a run, each job
creates at most one run. -/
theorem one_run_per_job (reporting : Q.Reporting) {empty : σ} (none : ∀ k, Q.get? empty k = none)
    (triggers : TriggerStore) {schedule : List DueMove} {t : DueState σ}
    (completes : Machine.Conforms (step Q worker) (Completes Q worker)
      { queue := empty, triggers := triggers } schedule)
    (ran : Machine.run (step Q worker) { queue := empty, triggers := triggers } schedule = some t)
    (jobId : String) : OneRun Q t jobId := by
  have init : Sound Q ({ queue := empty, triggers := triggers } : DueState σ) :=
    ⟨fun k job stored => by simp [none k] at stored, fun _ => Nat.zero_le 1, fun _ _ => rfl⟩
  refine oneRun_of_sound (Machine.invariant_conforms (I := Sound Q) ?_ init completes ran) jobId
  exact fun s m s' sound allowed moved => sound_step reporting sound allowed moved

section Retry

open Workers (InMemoryJobQueue)

def overdueStore : TriggerStore := ⟨[TriggerSchedulerWorker.overdue], by decide⟩

def dueWorker : TriggerDueWorker := { maxAttempts_pos := by decide }

def overdueJob : TriggerDueJob := ⟨"tenant", "workspace", "trigger", "schedule", 0, "user"⟩

def attemptAt (now : Time) (faults : DueCall → Fault) (suffix : String) : DueMove :=
  .process now faults ⟨"thread" ++ suffix, "message" ++ suffix, "run" ++ suffix, "job" ++ suffix⟩

def healthy : DueCall → Fault := fun _ => .none

def meterFails : DueCall → Fault
  | .recordBillingMeter => .refused "billing unavailable"
  | _ => .none

def smooth : List DueMove :=
  [.enqueue "job" overdueJob 0 3, attemptAt 0 healthy " 1"]

def retried : List DueMove :=
  [.enqueue "job" overdueJob 0 3, attemptAt 0 meterFails " 1", attemptAt (seconds 30) healthy " 2"]

theorem healthy_undisturbed : Undisturbed healthy := ⟨⟨rfl, rfl, rfl⟩, ⟨rfl, rfl, rfl⟩, rfl⟩

theorem smooth_completes :
    Machine.Conforms (step (InMemoryJobQueue.queue DuePayload) dueWorker)
      (Completes (InMemoryJobQueue.queue DuePayload) dueWorker)
      { queue := Table.empty, triggers := overdueStore } smooth :=
  fun _ _ => ⟨trivial, fun _ _ => ⟨fun _ _ => .inl healthy_undisturbed, trivial⟩⟩

theorem smooth_one_run :
    OneRun (InMemoryJobQueue.queue DuePayload)
      (Machine.final (step (InMemoryJobQueue.queue DuePayload) dueWorker)
        { queue := Table.empty, triggers := overdueStore } smooth rfl) "job" :=
  one_run_per_job (InMemoryJobQueue.reporting DuePayload) (fun _ => rfl) overdueStore
    smooth_completes (Machine.run_final _ _ _ rfl) "job"

/-- The run of the first attempt stays, and the retry creates another one. -/
theorem retried_creates_two :
    ∃ t, Machine.run (step (InMemoryJobQueue.queue DuePayload) dueWorker)
        { queue := Table.empty, triggers := overdueStore } retried = some t ∧
      (t.runsOf "job").map TriggeredRun.id = ["run 1", "run 2"] ∧
      ¬OneRun (InMemoryJobQueue.queue DuePayload) t "job" := by
  refine ⟨_, Machine.run_final _ _ _ rfl, ?_, fun one => ?_⟩
  · decide +kernel
  · exact absurd one.atMostOne (by decide +kernel)

end Retry

end DueState

end Taroai.Triggers
