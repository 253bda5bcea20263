import Mathlib.Data.Set.Defs
import Mathlib.Logic.Function.Basic
import Taroai.Chat.Thread
import Taroai.Workers.JobQueue
import Taroai.Workflow.Completing

/-! `process_next` of `workers/agent_worker.py` as a program of its calls to the queue and to the
store, and any number of workers that run it over one queue, the workflows and the chat threads.
Between two calls of one worker everything else may happen, and a worker may stop for good.
Run events, audit records and the reads of records whose fields are only copied are left out. -/

namespace Taroai.Workers

open Taroai.Chat Taroai.Workflow

/-- A run: of a task of a workflow, of a chat thread, or of neither. -/
inductive RunRef where
  | child (workflow : String) (index : Nat)
  | chat (thread : String) (index : Nat)
  | plain (id : Nat)
deriving DecidableEq, Repr

/-- The payload of a `RUN_EXECUTION` job. Workers of other types read none of it. -/
structure RunExecutionJob where
  run : RunRef
deriving DecidableEq, Repr

abbrev RunJob := JobEnvelope RunExecutionJob

structure AgentOutcome where
  status : RunStatus
  waitingReason : Option String := none
  summary : String := ""
  failureReason : Option String := none
deriving DecidableEq, Repr

structure WorkerSettings where
  leaseSeconds : Int := 300
  retryDelaySeconds : Int := 30
  continuationMaxAttempts : Nat := 3
  continuationMaxAttempts_pos : 1 ≤ continuationMaxAttempts := by decide

inductive WorkerCall where
  | reapExpiredLeases
  | claim
  | ack (jobId : String)
  | reject (jobId : String)
  | enqueue (run : RunRef)
  | refreshModelRuntime
  | getRun (run : RunRef)
  | markRunning (run : RunRef)
  | executeRun (run : RunRef)
  | restoreState (run : RunRef)
  | failRun (run : RunRef)
  | updateRunStatus (run : RunRef) (status : RunStatus)
  | workflowTask (run : RunRef)
  | plan (workflow : String) (c : PlanCall)
  | thread (thread : String) (c : ThreadCall)

@[reducible] def WorkerCall.Answer : WorkerCall → Type
  | reapExpiredLeases => List RunJob
  | claim => Option RunJob
  | ack _ => Option RunJob
  | reject _ => Option RunJob
  | enqueue _ => Option RunJob
  | refreshModelRuntime => Bool
  | getRun _ => Option RunStatus
  | markRunning _ => Unit
  | executeRun _ => Option AgentOutcome
  | restoreState _ => AgentOutcome
  | failRun _ => Option AgentOutcome
  | updateRunStatus _ _ => Unit
  | workflowTask _ => Option WorkflowTask
  | plan _ c => c.Answer
  | thread _ c => c.Answer

abbrev WorkerTask := Program WorkerCall WorkerCall.Answer

namespace AgentWorker

variable (specs : String → WorkflowSpec)

abbrev call (c : WorkerCall) : WorkerTask c.Answer := Program.perform c

def onPlan {α : Type} (workflow : String) (task : PlanTask α) : WorkerTask α :=
  task.embed (.plan workflow) fun _ a => a

def onThread {α : Type} (thread : String) (task : ThreadTask α) : WorkerTask α :=
  task.embed (.thread thread) fun _ a => a

def getRun (run : RunRef) : WorkerTask RunStatus := do
  match ← call (.getRun run) with
  | some status => return status
  | none => .raise

def enqueue (run : RunRef) : WorkerTask Unit := do
  match ← call (.enqueue run) with
  | some _ => return ()
  | none => .raise

def enqueueAll : List RunRef → WorkerTask Unit
  | [] => return ()
  | run :: rest => do
    enqueue run
    enqueueAll rest

def completeChild (run : RunRef) (outcome : WorkflowStore.Outcome) : WorkerTask (List RunRef) :=
  match run with
  | .child workflow index => do
    let created ← onPlan workflow (Completing.completeChild (specs workflow) index outcome)
    return created.map (.child workflow)
  | .chat _ _ | .plain _ => return []

def enqueueStarted (thread : String) : Option MessageDispatch → WorkerTask Unit
  | none => return ()
  | some dispatch =>
    if dispatch.runStarted then enqueue (.chat thread dispatch.run) else return ()

/-- The thread of a child run is deleted from the start, so its continuation does nothing. -/
def continueThread (run : RunRef) : WorkerTask Unit :=
  match run with
  | .chat thread _ => do enqueueStarted thread (← onThread thread ChatService.continueThread)
  | .child _ _ | .plain _ => return ()

def continueAfterTerminal (run : RunRef) (status : RunStatus) (state : AgentOutcome) :
    WorkerTask Unit := do
  if state.status.terminal then
    let task ← call (.workflowTask run)
    enqueueAll (← completeChild specs run ⟨status, state.summary, state.failureReason⟩)
    if task.isSome then return () else continueThread run
  else return ()

def finishDeadLetter (run : RunRef) : WorkerTask Unit := do
  let status ← getRun run
  let state ← call (.restoreState run)
  if status.terminal then continueAfterTerminal specs run status state
  else
    match ← call (.failRun run) with
    | some state => continueAfterTerminal specs run (← getRun run) state
    | none => .raise

def finishDeadLetters : List RunJob → WorkerTask Unit
  | [] => return ()
  | job :: rest => do
    if job.status = .deadLetter then
      finishDeadLetter specs job.payload.run
      finishDeadLetters rest
    else finishDeadLetters rest

def leaseLost : List String :=
  ["action_is_owned_by_another_live_worker", "action_lease_lost_before_commit",
    "action_commit_fence_rejected"]

/-- The body of the `try`. -/
def serve (run : RunRef) : WorkerTask Unit := do
  if ← call .refreshModelRuntime then
    let _ ← getRun run
    call (.markRunning run)
    match ← call (.executeRun run) with
    | none => .raise
    | some state =>
      if state.waitingReason.any (· ∈ leaseLost) then .raise
      else continueAfterTerminal specs run (← getRun run) state
  else .raise

/-- The body of the `except`. -/
def handleError (job : RunJob) : WorkerTask Unit := do
  match ← call (.reject job.id) with
  | none => .raise
  | some rejected =>
    if rejected.status = .pending then
      let status ← getRun job.payload.run
      if status.terminal then return () else call (.updateRunStatus job.payload.run .retrying)
    else if rejected.status = .deadLetter then finishDeadLetter specs job.payload.run
    else return ()

def acknowledge (job : RunJob) : WorkerTask Unit := do
  match ← call (.ack job.id) with
  | some _ => return ()
  | none => .raise

def process (job : RunJob) : WorkerTask Unit := do
  match ← (serve specs job.payload.run).attempt with
  | some () => acknowledge job
  | none => handleError specs job

def processNext : WorkerTask Unit := do
  finishDeadLetters specs (← call .reapExpiredLeases)
  match ← call .claim with
  | none => return ()
  | some job => process specs job

end AgentWorker

/-- A dead letter that a worker has to finish; `ended` once its run was seen or made terminal. -/
structure DeadLetter where
  jobId : String
  run : RunRef
  ended : Bool := false
deriving DecidableEq, Repr

/-- The claimed job; `executed` once its run was executed. -/
structure Serving where
  jobId : String
  run : RunRef
  executed : Bool := false
deriving DecidableEq, Repr

structure Hands where
  dead : List DeadLetter := []
  /-- The created runs that have no job yet. -/
  handing : List RunRef := []
  serving : Option Serving := none
deriving DecidableEq, Repr

namespace Hands

def endRun (hands : Hands) (run : RunRef) : Hands :=
  { hands with
    dead := hands.dead.map fun letter =>
      if letter.run = run then { letter with ended := true } else letter }

def drop (hands : Hands) (run : RunRef) : Hands :=
  { hands with dead := hands.dead.filter fun letter => ¬ (letter.run = run ∧ letter.ended = true) }

def next (hands : Hands) : (c : WorkerCall) → c.Answer → Hands
  | .reapExpiredLeases, reaped =>
    { hands with
      dead := (reaped.filter fun job => job.status = .deadLetter).map fun job =>
        { jobId := job.id, run := job.payload.run } }
  | .claim, some job => { hands with serving := some { jobId := job.id, run := job.payload.run } }
  | .executeRun _, some _ =>
    { hands with serving := hands.serving.map fun served => { served with executed := true } }
  | .reject jobId, some job =>
    { hands with
      dead :=
        if job.status = .deadLetter then
          hands.dead ++ (hands.serving.map fun served =>
            ({ jobId := jobId, run := served.run } : DeadLetter)).toList
        else hands.dead }
  | .getRun run, some status => if status.terminal then hands.endRun run else hands
  | .failRun run, some _ => hands.endRun run
  | .workflowTask run, _ => hands.drop run
  | .plan workflow (.createChildRun _), index =>
    { hands with handing := hands.handing ++ [.child workflow index] }
  | .thread thread (.createQueuedThreadRunIfAbsent _), some (run, true) =>
    { hands with handing := hands.handing ++ [.chat thread run.id] }
  | .enqueue run, some _ => { hands with handing := hands.handing.erase run }
  | _, _ => hands

/-- The dead letters that are finished with the call: their run is terminal, and this is the first
call of the continuation. -/
def finishes (hands : Hands) : WorkerCall → List String
  | .workflowTask run =>
    (hands.dead.filter fun letter => letter.run = run ∧ letter.ended = true).map DeadLetter.jobId
  | _ => []

end Hands

structure Busy where
  hands : Hands
  rest : WorkerTask Unit

/-- What the environment decides about a call: clock readings, the name of a new job, and what the
agent does. -/
@[reducible] def WorkerCall.Choice : WorkerCall → Type
  | reapExpiredLeases => Time
  | claim => Time
  | ack _ => Time
  | reject _ => String × Time
  | enqueue _ => String × Time
  | refreshModelRuntime => Bool
  | executeRun _ => RunStatus × Option AgentOutcome
  | restoreState _ => AgentOutcome
  | failRun _ => Option AgentOutcome
  | plan _ c => c.Answer
  | thread _ c => c.Answer
  | getRun _ | markRunning _ | updateRunStatus _ _ | workflowTask _ => Unit

structure Site (σ : Type) where
  queue : σ
  plans : String → WorkflowStore
  threads : String → ThreadStore
  plain : Nat → RunStatus
  workers : String → Option Busy
  /-- The run jobs that a reaping pass moved to the dead letters. -/
  expired : Set String
  finished : List String
  /-- The runs that a continuation created, that no worker has executed and that have not ended. -/
  fresh : Set RunRef

namespace Site

variable {σ : Type}

def status (s : Site σ) : RunRef → Option RunStatus
  | .child workflow index => ((s.plans workflow).runs[index]?).map ChildRun.status
  | .chat thread index => ((s.threads thread).runs[index]?).map ThreadRun.status
  | .plain id => some (s.plain id)

def setPlan (s : Site σ) (workflow : String) (plan : WorkflowStore) : Site σ :=
  { s with plans := Function.update s.plans workflow plan }

def setThread (s : Site σ) (thread : String) (store : ThreadStore) : Site σ :=
  { s with threads := Function.update s.threads thread store }

def setStatus (s : Site σ) (run : RunRef) (status : RunStatus) : Site σ :=
  match run with
  | .child workflow index => s.setPlan workflow ((s.plans workflow).setRunStatus index status)
  | .chat thread index =>
    s.setThread thread
      { s.threads thread with
        runs := (s.threads thread).runs.modify index fun run => { run with status := status } }
  | .plain id => { s with plain := Function.update s.plain id status }

def doomed (Q : JobQueue RunExecutionJob σ) (s : Site σ) (now : Time) : Set String :=
  { id | ∃ job, Q.get? s.queue id = some job ∧ job.type = .runExecution ∧
    job.leaseExpired now = true ∧ ¬ job.attempts < job.maxAttempts }

variable (Q : JobQueue RunExecutionJob σ) (settings : WorkerSettings)

def report (s : Site σ) (jobId : String) (verdict : Verdict) (now : Time) :
    Option RunJob × Site σ :=
  match Q.finish s.queue jobId verdict now with
  | .ok (job, queue) => (some job, { s with queue := queue })
  | .error _ => (none, s)

def respond (s : Site σ) (worker : String) :
    (c : WorkerCall) → c.Choice → Option (c.Answer × Site σ)
  | .reapExpiredLeases, now =>
    let (reaped, queue) := Q.reapExpiredLeases s.queue (some .runExecution) now leaseExpiredError
    some (reaped, { s with queue := queue, expired := s.expired ∪ s.doomed Q now })
  | .claim, now =>
    let (job, queue) := Q.claim s.queue .runExecution worker now settings.leaseSeconds
    some (job, { s with queue := queue, expired := s.expired ∪ s.doomed Q now })
  | .ack jobId, now => some (s.report Q jobId .ack now)
  | .reject jobId, (error, now) =>
    some (s.report Q jobId (.reject error settings.retryDelaySeconds) now)
  | .enqueue run, (id, now) =>
    match Q.get? s.queue id with
    | some _ => none
    | none =>
      match Q.enqueue s.queue id .runExecution ⟨run⟩ now settings.continuationMaxAttempts with
      | .ok (job, queue) => some (some job, { s with queue := queue })
      | .error _ => some (none, s)
  | .refreshModelRuntime, refreshed => some (refreshed, s)
  | .getRun run, _ => some (s.status run, s)
  | .markRunning run, _ =>
    match run with
    | .child workflow index =>
      some ((), s.setPlan workflow ((s.plans workflow).markRunning index))
    | .chat _ _ | .plain _ => some ((), s)
  -- an execution that does not raise has written the status of its run
  | .executeRun run, (status, outcome) =>
    match outcome with
    | none => some (none, s)
    | some state =>
      if s.status run = none then some (none, s)
      else some (some state, s.setStatus run status)
  | .restoreState _, state => some (state, s)
  | .failRun run, failed =>
    match failed with
    | none => some (none, s)
    | some state => some (some { state with status := .failed }, s.setStatus run .failed)
  | .updateRunStatus run status, _ => some ((), s.setStatus run status)
  | .workflowTask run, _ =>
    match run with
    | .child workflow index => some ((s.plans workflow).taskForChildRun index, s)
    | .chat _ _ | .plain _ => some (none, s)
  | .plan workflow c, proposed =>
    let (a, plan) := (s.plans workflow).respond c proposed
    some (a, s.setPlan workflow plan)
  | .thread thread c, proposed =>
    let (a, store) := (s.threads thread).respond c proposed
    some (a, s.setThread thread store)

def created : (c : WorkerCall) → c.Answer → Set RunRef
  | .plan workflow (.createChildRun _), index => { run | run = .child workflow index }
  | .thread thread (.createQueuedThreadRunIfAbsent _), some (run, true) =>
    { ref | ref = .chat thread run.id }
  | _, _ => ∅

def executed : (c : WorkerCall) → c.Answer → Set RunRef
  | .executeRun run, some _ => { other | other = run }
  | _, _ => ∅

def settle (s : Site σ) : Site σ :=
  { s with
    fresh := { run | run ∈ s.fresh ∧ ∃ status, s.status run = some status ∧
      status.terminal = false } }

def setWorker (s : Site σ) (worker : String) (busy : Option Busy) : Site σ :=
  { s with workers := Function.update s.workers worker busy }

variable (specs : String → WorkflowSpec)

inductive Label where
  | poll (worker : String)
  /-- A request of the user to continue the thread, in a process of the API. -/
  | continueThread (worker thread : String)
  /-- The next call of the worker, or its return. -/
  | proceed (worker : String) (choose : (c : WorkerCall) → c.Choice)
  | stop (worker : String)
  | enqueue (id : String) (type : JobType) (payload : RunExecutionJob) (now : Time)
    (maxAttempts : Nat)
  | otherClaim (type : JobType) (workerId : String) (now : Time) (leaseSeconds : Int)
  | otherReport (jobId : String) (verdict : Verdict) (now : Time)
  | workflow (workflow : String) (plan : WorkflowStore)
  | chat (thread : String) (store : ThreadStore)
  | plain (id : Nat) (status : RunStatus)

def start (s : Site σ) (worker : String) (task : WorkerTask Unit) : Option (Site σ) :=
  match s.workers worker with
  | none => some (s.setWorker worker (some ⟨{}, task⟩))
  | some _ => none

def proceed (s : Site σ) (worker : String) (choose : (c : WorkerCall) → c.Choice) :
    Option (Site σ) :=
  match s.workers worker with
  | none => none
  | some ⟨hands, .call c next⟩ =>
    match s.respond Q settings worker c (choose c) with
    | none => none
    | some (a, t) =>
      some { t.setWorker worker (some ⟨hands.next c a, next a⟩) with
        finished := hands.finishes c ++ s.finished
        fresh := (s.fresh \ executed c a) ∪ created c a }
  | some ⟨_, .pure _⟩ | some ⟨_, .raise⟩ => some (s.setWorker worker none)

def act (s : Site σ) : Label → Option (Site σ)
  | .poll worker => s.start worker (AgentWorker.processNext specs)
  | .continueThread worker thread => s.start worker (AgentWorker.continueThread (.chat thread 0))
  | .proceed worker choose => s.proceed Q settings worker choose
  | .stop worker => some (s.setWorker worker none)
  | .enqueue id type payload now maxAttempts =>
    match Q.get? s.queue id with
    | some _ => none
    | none =>
      match Q.enqueue s.queue id type payload now maxAttempts with
      | .ok (_, queue) => some { s with queue := queue }
      | .error _ => some s
  | .otherClaim type workerId now leaseSeconds =>
    if type = .runExecution then none
    else some { s with queue := (Q.claim s.queue type workerId now leaseSeconds).2 }
  | .otherReport jobId verdict now =>
    if (Q.get? s.queue jobId).any fun job => job.type = .runExecution then none
    else some (s.report Q jobId verdict now).2
  -- whatever else is done to the records: no run is deleted
  | .workflow workflow plan =>
    if (s.plans workflow).runs.length ≤ plan.runs.length then some (s.setPlan workflow plan)
    else none
  | .chat thread store =>
    if (s.threads thread).runs.length ≤ store.runs.length then some (s.setThread thread store)
    else none
  | .plain id status => some (s.setStatus (.plain id) status)

def step (s : Site σ) (label : Label) : Option (Site σ) := (s.act Q settings specs label).map settle

end Site

end Taroai.Workers
