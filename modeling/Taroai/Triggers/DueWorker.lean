import Taroai.Domain
import Taroai.Lib.Machine
import Taroai.Triggers.SchedulerWorker
import Taroai.Workers.Attempts

/-! `TriggerDueWorker.process_next` of `workers/trigger_worker.py`. Every call may fail, before
its effect (`refused`) or after it (`lost`); which calls fail and the new identifiers are part
of the step. A run keeps the job it was created for, which the source does not record. -/

namespace Taroai.Triggers

open Workers (JobType JobStatus JobEnvelope JobQueue Verdict)

structure RunExecutionJob where
  tenantId : String
  workspaceId : String
  userId : String
  runId : String
  requestedByUserId : String
deriving DecidableEq, Repr

inductive DuePayload where
  | triggerDue (job : TriggerDueJob)
  | runExecution (job : RunExecutionJob)
deriving DecidableEq, Repr

structure TriggerRunRequest where
  tenantId : String
  workspaceId : String
  triggerId : String
  triggerType : TriggerType
  requestedByUserId : String
  agentId : Option String
  message : String
deriving DecidableEq, Repr

structure ChatThreadRecord where
  id : String
  tenantId : String
  userId : String
  workspaceId : String
  title : String
deriving DecidableEq, Repr

structure ChatMessageRecord where
  id : String
  tenantId : String
  threadId : String
  userId : String
  content : String
  agentId : String
deriving DecidableEq, Repr

structure TriggeredRun where
  id : String
  tenantId : String
  userId : String
  workspaceId : String
  agentId : Option String
  message : String
  threadId : Option String
  triggerMessageId : Option String
  status : RunStatus
  jobId : String
deriving DecidableEq, Repr

/-- The metadata of `trigger.invoked`. -/
structure InvocationAudit where
  triggerId : String
  triggerType : String
  runId : String
  scheduledFor : Time
  workerId : String
deriving DecidableEq, Repr

structure InvocationMeter where
  runId : String
  triggerId : String
  triggerType : String
deriving DecidableEq, Repr

/-- The payload of `run.execution_queued`. -/
structure ExecutionQueuedEvent where
  runId : String
  jobId : String
  queue : String
  reason : String
  triggerId : String
deriving DecidableEq, Repr

structure JobAudit where
  eventType : String
  jobId : String
  attempts : Nat
  status : JobStatus
deriving DecidableEq, Repr

structure DueState (σ : Type) where
  queue : σ
  triggers : TriggerStore
  threads : List ChatThreadRecord := []
  messages : List ChatMessageRecord := []
  runs : List TriggeredRun := []
  audits : List InvocationAudit := []
  meters : List InvocationMeter := []
  events : List ExecutionQueuedEvent := []
  jobAudits : List JobAudit := []

inductive DueCall where
  | claim
  | recordStarted
  | buildRunRequest
  | createChatThread
  | appendChatMessage
  | createRun
  | recordInvoked
  | recordBillingMeter
  | updateRunStatus
  | enqueueExecution
  | appendRunEvent
  | ack
  | recordSucceeded
  | reject
  | recordFailed
deriving DecidableEq, Repr

inductive Fault where
  | none
  | refused (error : String)
  | lost (error : String)
deriving DecidableEq, Repr

def Fault.isRefused : Fault → Bool
  | .refused _ => true
  | .none | .lost _ => false

/-- The identifiers that the store and the queue hand out during one call of the worker. -/
structure NewIds where
  threadId : String
  messageId : String
  runId : String
  jobId : String
deriving DecidableEq, Repr

structure TriggerDueWorker where
  audited : Bool := false
  workerId : String := "trigger_due_worker"
  leaseSeconds : Int := 300
  retryDelaySeconds : Int := 30
  maxAttempts : Nat := 3
  maxAttempts_pos : 1 ≤ maxAttempts
  runExecutionQueueName : String := "runs.execute"

/-- `text.strip()` where blanks are ASCII. -/
def strip (text : String) : String :=
  String.ofList
    ((text.toList.dropWhile Char.isWhitespace).reverse.dropWhile Char.isWhitespace).reverse

def messageFromTemplate (trigger : TriggerDefinition) : String :=
  match trigger.message with
  | some raw => if strip raw ≠ "" then strip raw else s!"Run trigger: {trigger.name}"
  | none => s!"Run trigger: {trigger.name}"

/-- `build_run_request` without an invoking user or a payload. -/
def buildRunRequest (triggers : TriggerStore) (tenantId triggerId : String) :
    Except String TriggerRunRequest :=
  match triggers.get? triggerId with
  | none => .error s!"Trigger not found: {triggerId}"
  | some trigger =>
    if trigger.tenantId ≠ tenantId then
      .error s!"Trigger {triggerId} is not in tenant {tenantId}"
    else if trigger.status = .disabled then .error s!"Trigger is disabled: {trigger.id}"
    else
      match orText trigger.createdByUserId trigger.serviceAccountId with
      | none => .error s!"Trigger {trigger.id} has no accountable identity"
      | some requestedByUserId =>
        .ok
          { tenantId := trigger.tenantId
            workspaceId := trigger.workspaceId
            triggerId := trigger.id
            triggerType := trigger.type
            requestedByUserId := requestedByUserId
            agentId :=
              if trigger.type = .agentHandoff ∧ trigger.targetAgentId.isSome then
                trigger.targetAgentId
              else trigger.agentId
            message := messageFromTemplate trigger }

namespace TriggerDueWorker

variable {σ : Type} (Q : JobQueue DuePayload σ) (worker : TriggerDueWorker) (now : Time)
  (faults : DueCall → Fault) (ids : NewIds)

abbrev Operation (σ : Type) := Raising String (DueState σ)

/-- A call that the environment lets succeed, refuses, or fails after its effect. -/
def perform {α : Type} (c : DueCall) (operation : Operation σ α) : Operation σ α :=
  match faults c with
  | .none => operation
  | .refused error => Raising.raise error
  | .lost error => do
    let _ ← operation
    Raising.raise error

/-- `try`: the result or what was raised. -/
def attempt {α : Type} (operation : Operation σ α) : Operation σ (Except String α) := fun s =>
  (.ok (operation s).1, (operation s).2)

def claim : Operation σ (Option (JobEnvelope DuePayload)) := fun s =>
  let (job, queue) := Q.claim s.queue .triggerDue worker.workerId now worker.leaseSeconds
  (.ok job, { s with queue := queue })

def finish (jobId : String) (verdict : Verdict) : Operation σ (JobEnvelope DuePayload) := fun s =>
  match Q.finish s.queue jobId verdict now with
  | .ok (job, queue) => (.ok job, { s with queue := queue })
  | .error (.notFound message) => (.error message, s)
  | .error .invalidMaxAttempts => (.error "max_attempts", s)

def recordJobAudit (c : DueCall) (eventType : String) (job : JobEnvelope DuePayload) :
    Operation σ Unit :=
  if worker.audited then
    perform faults c <| Raising.update fun s =>
      { s with jobAudits := s.jobAudits ++ [⟨eventType, job.id, job.attempts, job.status⟩] }
  else pure ()

def createChatThread (tenantId : String) (request : TriggerRunRequest) : Operation σ Unit :=
  Raising.update fun s =>
    { s with
      threads := s.threads ++
        [{ id := ids.threadId
           tenantId := tenantId
           userId := request.requestedByUserId
           workspaceId := request.workspaceId
           title := String.ofList (request.message.toList.take 160) }] }

def appendChatMessage (tenantId : String) (request : TriggerRunRequest) (agentId : String) :
    Operation σ Unit :=
  Raising.update fun s =>
    { s with
      messages := s.messages ++
        [{ id := ids.messageId
           tenantId := tenantId
           threadId := ids.threadId
           userId := request.requestedByUserId
           content := request.message
           agentId := agentId }] }

def openThread (tenantId : String) (request : TriggerRunRequest) :
    Operation σ (Option (String × String)) :=
  match request.agentId with
  | none => pure none
  | some agentId =>
    if agentId = "" then pure none
    else do
      perform faults .createChatThread (createChatThread ids tenantId request)
      perform faults .appendChatMessage (appendChatMessage ids tenantId request agentId)
      pure (some (ids.threadId, ids.messageId))

def storeRun (jobId tenantId : String) (request : TriggerRunRequest)
    (thread : Option (String × String)) : Operation σ TriggeredRun := fun s =>
  let run : TriggeredRun :=
    { id := ids.runId
      tenantId := tenantId
      userId := request.requestedByUserId
      workspaceId := request.workspaceId
      agentId := request.agentId
      message := request.message
      threadId := thread.map Prod.fst
      triggerMessageId := thread.map Prod.snd
      status := .created
      jobId := jobId }
  (.ok run, { s with runs := s.runs ++ [run] })

/-- The rest of `_create_run`, from the call of the store on. -/
def createRecordedRun (jobId : String) (payload : TriggerDueJob) (request : TriggerRunRequest)
    (thread : Option (String × String)) : Operation σ TriggeredRun := do
  let run ← perform faults .createRun (storeRun ids jobId payload.tenantId request thread)
  perform faults .recordInvoked <| Raising.update fun s =>
    { s with
      audits := s.audits ++
        [⟨request.triggerId, request.triggerType.value, run.id, payload.scheduledFor,
          worker.workerId⟩] }
  perform faults .recordBillingMeter <| Raising.update fun s =>
    { s with meters := s.meters ++ [⟨run.id, request.triggerId, request.triggerType.value⟩] }
  pure run

def createRun (jobId : String) (payload : TriggerDueJob) : Operation σ TriggeredRun := do
  let request ← perform faults .buildRunRequest fun s =>
    (buildRunRequest s.triggers payload.tenantId payload.triggerId, s)
  let thread ← openThread faults ids payload.tenantId request
  createRecordedRun worker faults ids jobId payload request thread

def updateRunStatus (runId : String) (status : RunStatus) : Operation σ Unit :=
  Raising.update fun s =>
    { s with
      runs := s.runs.map fun run => if run.id = runId then { run with status := status } else run }

def enqueueExecution (payload : TriggerDueJob) (run : TriggeredRun) :
    Operation σ (JobEnvelope DuePayload) := fun s =>
  match Q.enqueue s.queue ids.jobId .runExecution (.runExecution
      ⟨run.tenantId, run.workspaceId, run.userId, run.id, payload.requestedByUserId⟩) now
      worker.maxAttempts with
  | .ok (job, queue) => (.ok job, { s with queue := queue })
  | .error _ => (.error "max_attempts", s)

def enqueueRunExecution (payload : TriggerDueJob) (run : TriggeredRun) :
    Operation σ (JobEnvelope DuePayload) := do
  perform faults .updateRunStatus (updateRunStatus run.id .queued)
  let job ← perform faults .enqueueExecution (enqueueExecution Q worker now ids payload run)
  perform faults .appendRunEvent <| Raising.update fun s =>
    { s with
      events := s.events ++
        [⟨run.id, job.id, worker.runExecutionQueueName, "trigger_due", payload.triggerId⟩] }
  pure job

/-- What the `try` block runs. -/
def invoke (jobId : String) (payload : TriggerDueJob) :
    Operation σ (TriggeredRun × JobEnvelope DuePayload) := do
  let run ← createRun worker faults ids jobId payload
  let execution ← enqueueRunExecution Q worker now faults ids payload run
  pure (run, execution)

/-- The `try` statement and the report on its outcome. -/
def attemptAndReport (job : JobEnvelope DuePayload) (payload : TriggerDueJob) :
    Operation σ (Option (JobEnvelope DuePayload)) := do
  match ← attempt (invoke Q worker now faults ids job.id payload) with
  | .error error => do
    let rejected ← perform faults .reject
      (finish Q now job.id (.reject error worker.retryDelaySeconds))
    recordJobAudit worker faults .recordFailed "worker.job.failed" rejected
    pure (some rejected)
  | .ok _ => do
    let completed ← perform faults .ack (finish Q now job.id .ack)
    recordJobAudit worker faults .recordSucceeded "worker.job.succeeded" completed
    pure (some completed)

def processNext : Operation σ (Option (JobEnvelope DuePayload)) := do
  match ← perform faults .claim (claim Q worker now) with
  | none => pure none
  | some job =>
    match job.payload with
    | .runExecution _ => Raising.raise "validation error for TriggerDueJob"
    | .triggerDue payload => do
      recordJobAudit worker faults .recordStarted "worker.job.started" job
      attemptAndReport Q worker now faults ids job payload

end TriggerDueWorker

/-- The scheduler enqueues a job, the triggers are edited, or the worker takes a job. -/
inductive DueMove where
  | enqueue (id : String) (payload : TriggerDueJob) (now : Time) (maxAttempts : Nat)
  | edit (triggers : TriggerStore)
  | process (now : Time) (faults : DueCall → Fault) (ids : NewIds)

namespace DueState

variable {σ : Type} (Q : JobQueue DuePayload σ) (worker : TriggerDueWorker)

def step (s : DueState σ) : DueMove → Option (DueState σ)
  | .enqueue id payload now maxAttempts =>
    match Q.get? s.queue id with
    | some _ => none
    | none =>
      match Q.enqueue s.queue id .triggerDue (.triggerDue payload) now maxAttempts with
      | .ok (_, queue) => some { s with queue := queue }
      | .error _ => some s
  | .edit triggers => some { s with triggers := triggers }
  | .process now faults ids =>
    if (Q.get? s.queue ids.jobId).isNone ∧ ∀ run ∈ s.runs, run.id ≠ ids.runId then
      some (worker.processNext Q now faults ids s).2
    else none

end DueState

end Taroai.Triggers
