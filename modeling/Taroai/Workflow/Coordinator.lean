import Taroai.Domain
import Taroai.Lib.Machine
import Taroai.Lib.Raising
import Taroai.Workflow.Spec

/-! `WorkflowCoordinator` on one workflow of the store: its status and that of the parent run,
its tasks in the order in which the store lists them, and the child runs it created. A child
run is named by its place in the list, so a new run has a new name; `taskId` is the task it was
created for. Reports of workers are labels, and so is the exception, if any, that synthesis
does not catch. Events, messages and prompts, which no operation reads, are left out. -/

namespace Taroai.Workflow

inductive WorkflowStatus where
  | awaitingApproval
  | running
  | paused
  | succeeded
  | failed
  | cancelled
deriving DecidableEq, Repr

inductive WorkflowTaskStatus where
  | pending
  | queued
  | running
  | succeeded
  | failed
  | cancelled
  | blocked
deriving DecidableEq, Repr

structure WorkflowTask where
  taskId : String
  status : WorkflowTaskStatus := .pending
  childRunId : Option Nat := none
  summary : String := ""
  error : Option String := none
  attempts : Nat := 0
deriving DecidableEq, Repr

structure ChildRun where
  taskId : String
  status : RunStatus
deriving DecidableEq, Repr

structure WorkflowStore where
  status : WorkflowStatus
  parentStatus : RunStatus
  tasks : Table WorkflowTask.taskId
  runs : List ChildRun
deriving DecidableEq

inductive WorkflowError where
  | valueError (message : String)
  | uncaught (name : String)
deriving DecidableEq, Repr

def WorkflowTaskStatus.active : WorkflowTaskStatus → Bool
  | queued | running => true
  | pending | succeeded | failed | cancelled | blocked => false

/-- The statuses from which `retry_task` takes a task. -/
def WorkflowTaskStatus.retryable : WorkflowTaskStatus → Bool
  | failed | cancelled | blocked => true
  | pending | queued | running | succeeded => false

/-- The statuses that `cancel` turns into `cancelled`. -/
def WorkflowTaskStatus.cancellable : WorkflowTaskStatus → Bool
  | pending | queued | running | blocked => true
  | succeeded | failed | cancelled => false

namespace WorkflowStore

variable (spec : WorkflowSpec)

/-- The changes of `update_workflow_task` to the stored record of a task. -/
def updateTask (s : WorkflowStore) (taskId : String) (changes : WorkflowTask → WorkflowTask) :
    WorkflowStore :=
  { s with
    tasks := s.tasks.map (fun task => if task.taskId = taskId then
      { changes task with taskId := task.taskId } else task) (by intro task; split <;> rfl) }

def taskForChildRun (s : WorkflowStore) (runId : Nat) : Option WorkflowTask :=
  s.tasks.entries.find? fun task => task.childRunId = some runId

def setRunStatus (s : WorkflowStore) (runId : Nat) (status : RunStatus) : WorkflowStore :=
  { s with runs := s.runs.modify runId fun run => { run with status := status } }

/-- `cancel_run` on a child run that is not terminal. -/
def cancelRun (s : WorkflowStore) (runId : Nat) : WorkflowStore :=
  { s with
    runs := s.runs.modify runId fun run =>
      if run.status.terminal then run else { run with status := .cancelled } }

def active (s : WorkflowStore) : Nat := s.tasks.entries.countP fun task => task.status.active

def succeededIds (s : WorkflowStore) : List String :=
  (s.tasks.entries.filter fun task => task.status = .succeeded).map WorkflowTask.taskId

def isReady (s : WorkflowStore) (task : WorkflowTask) : Bool :=
  task.status = .pending &&
    (spec.task task.taskId).any fun given => given.dependsOn.all (· ∈ s.succeededIds)

/-- `_create_task_run`, on the task as it was listed. -/
def createTaskRun (s : WorkflowStore) (task : WorkflowTask) : WorkflowStore :=
  { s with runs := s.runs ++ [(⟨task.taskId, .queued⟩ : ChildRun)] }.updateTask task.taskId
    fun stored =>
      { stored with
        status := .queued
        childRunId := some s.runs.length
        attempts := task.attempts + 1 }

def createTaskRuns (s : WorkflowStore) : List WorkflowTask → List Nat × WorkflowStore
  | [] => ([], s)
  | task :: rest =>
    let (created, s') := (s.createTaskRun task).createTaskRuns rest
    (s.runs.length :: created, s')

/-- The tasks that `ready_runs` starts. -/
def readyTasks (s : WorkflowStore) : List WorkflowTask :=
  if s.status ≠ .running then []
  else
    let slots := spec.maxConcurrency - s.active
    if slots = 0 then [] else (s.tasks.entries.filter (s.isReady spec)).take slots

def markRunning (s : WorkflowStore) (runId : Nat) : WorkflowStore :=
  match s.taskForChildRun runId with
  | none => s
  | some task =>
    if task.status ≠ .queued then s
    else s.updateTask task.taskId fun stored => { stored with status := .running }

def cancelChild (s : WorkflowStore) (task : WorkflowTask) : WorkflowStore :=
  match task.childRunId with
  | none => s
  | some runId => if task.status.active then s.cancelRun runId else s

/-- The body of the loop of `_fail_workflow` on one listed task. -/
def cancelSibling (s : WorkflowStore) (task : WorkflowTask) : WorkflowStore :=
  if task.childRunId ≠ none ∧ task.status.active = true then
    (s.cancelChild task).updateTask task.taskId fun stored => { stored with status := .cancelled }
  else s

def failWorkflow (s : WorkflowStore) : WorkflowStore :=
  { s.tasks.entries.foldl cancelSibling s with status := .failed, parentStatus := .failed }

/-- The body of the loop of `cancel` on one listed task. -/
def cancelTask (s : WorkflowStore) (task : WorkflowTask) : WorkflowStore :=
  if task.status.cancellable then
    (s.cancelChild task).updateTask task.taskId fun stored => { stored with status := .cancelled }
  else s.cancelChild task

def allSucceeded (s : WorkflowStore) : Bool :=
  s.tasks.entries.all fun task => task.status = .succeeded

def setStatus (s : WorkflowStore) (status : WorkflowStatus) (parentStatus : RunStatus) :
    WorkflowStore :=
  { s with status := status, parentStatus := parentStatus }

/-- How the child run ended: its status, the summary that its final response or its last answer
gives, and the reason of its failure. -/
structure Outcome where
  status : RunStatus
  summary : String
  failureReason : Option String
deriving DecidableEq, Repr

def Outcome.error (outcome : Outcome) : String :=
  match outcome.failureReason with
  | some reason => if reason = "" then outcome.status.value else reason
  | none => outcome.status.value

def Outcome.failedStatus (outcome : Outcome) : WorkflowTaskStatus :=
  if outcome.status = .cancelled then .cancelled else .failed

def succeedTask (s : WorkflowStore) (taskId : String) (outcome : Outcome) : WorkflowStore :=
  s.updateTask taskId fun stored =>
    { stored with status := .succeeded, summary := outcome.summary, error := none }

def endTask (s : WorkflowStore) (taskId : String) (outcome : Outcome) : WorkflowStore :=
  s.updateTask taskId fun stored =>
    { stored with status := outcome.failedStatus, error := some outcome.error }

def resetTask (s : WorkflowStore) (taskId : String) : WorkflowStore :=
  s.updateTask taskId fun stored =>
    { stored with status := .pending, childRunId := none, summary := "", error := none }

abbrev Op := Raising WorkflowError WorkflowStore

def readyRuns : Op (List Nat) := fun s =>
  let (created, s') := s.createTaskRuns (s.readyTasks spec)
  (.ok created, s')

/-- What the model answers, or why it does not, decides only the text, unless the stream raises
an exception that is not caught. -/
def synthesize (uncaught : Option String) : Op Unit :=
  match uncaught with
  | some name => Raising.raise (.uncaught name)
  | none => Raising.update fun s => s.setStatus .succeeded .succeeded

def completeChild (runId : Nat) (outcome : Outcome) (uncaught : Option String) :
    Op (List Nat) := do
  match ← Raising.read fun s => s.taskForChildRun runId with
  | none => pure []
  | some task =>
    if task.status = .succeeded ∨ task.status = .failed ∨ task.status = .cancelled then pure []
    else
      let workflow ← Raising.read status
      if outcome.status = .succeeded then
        Raising.update fun s => s.succeedTask task.taskId outcome
        if ← Raising.read allSucceeded then
          if workflow ≠ .paused then synthesize uncaught
          pure []
        else readyRuns spec
      else
        Raising.update fun s => s.endTask task.taskId outcome
        if workflow ≠ .cancelled ∧ workflow ≠ .paused then Raising.update failWorkflow
        pure []

def retryTask (taskId : String) : Op (List Nat) := do
  match ← Raising.read fun s => s.tasks.get? taskId with
  | none => Raising.raise (.valueError ("workflow task not found: " ++ taskId))
  | some task =>
    Raising.ensure (task.status.retryable = true)
      (.valueError "only failed, cancelled, or blocked workflow tasks can be retried")
    Raising.update fun s => s.resetTask taskId
    Raising.update fun s => s.setStatus .running .running
    readyRuns spec

def pause : Op (List Nat) := do
  let workflow ← Raising.read status
  Raising.ensure (workflow = .running) (.valueError "only running workflows can be paused")
  Raising.update fun s => s.setStatus .paused .waitingForUser
  pure []

def resume (uncaught : Option String) : Op (List Nat) := do
  let workflow ← Raising.read status
  Raising.ensure (workflow = .paused) (.valueError "only paused workflows can be resumed")
  Raising.update fun s => s.setStatus .running .running
  let tasks ← Raising.read fun s => s.tasks.entries
  if tasks ≠ [] ∧ (← Raising.read allSucceeded) then
    synthesize uncaught
    pure []
  else readyRuns spec

def cancelParent (s : WorkflowStore) : WorkflowStore :=
  s.setStatus .cancelled (if s.parentStatus.terminal then s.parentStatus else .cancelled)

def cancel : Op (List Nat) := do
  let workflow ← Raising.read status
  if workflow = .cancelled then pure []
  else
    Raising.ensure (workflow ≠ .succeeded ∧ workflow ≠ .failed)
      (.valueError "completed workflows cannot be cancelled")
    Raising.update fun s => s.tasks.entries.foldl cancelTask s
    Raising.update cancelParent
    pure []

/-- The approval of the plan: the workflow part of `resume_after_approval`, and `ready_runs`. -/
def approve : Op (List Nat) := do
  let workflow ← Raising.read status
  Raising.ensure (workflow = .awaitingApproval) (.valueError "approval is not pending")
  Raising.update fun s => s.setStatus .running .running
  readyRuns spec

inductive Label where
  | approve
  | readyRuns
  | markRunning (runId : Nat)
  | completeChild (runId : Nat) (outcome : Outcome) (uncaught : Option String)
  | retryTask (taskId : String)
  | pause
  | resume (uncaught : Option String)
  | cancel
  | runStatus (runId : Nat) (status : RunStatus)
deriving DecidableEq, Repr

def perform : Label → Op (List Nat)
  | .approve => approve spec
  | .readyRuns => readyRuns spec
  | .markRunning runId => fun s => (.ok [], s.markRunning runId)
  | .completeChild runId outcome uncaught => completeChild spec runId outcome uncaught
  | .retryTask taskId => retryTask spec taskId
  | .pause => pause
  | .resume uncaught => resume spec uncaught
  | .cancel => cancel
  | .runStatus runId status => fun s => (.ok [], s.setRunStatus runId status)

def step (s : WorkflowStore) (label : Label) : Option WorkflowStore :=
  some (perform spec label s).2

section States

variable {spec} (s : WorkflowStore)

open Raising

theorem approve_state : (approve spec s).2 =
    if s.status = .awaitingApproval then (readyRuns spec (s.setStatus .running .running)).2
    else s := by
  simp only [approve, read_bind, ensure_bind, update_bind, apply_ite Prod.snd]

theorem pause_state : (pause s).2 =
    if s.status = .running then s.setStatus .paused .waitingForUser else s := by
  simp only [pause, read_bind, ensure_bind, update_bind, pure_apply, apply_ite Prod.snd]

theorem resume_state (uncaught : Option String) : (resume spec uncaught s).2 =
    if s.status = .paused then
      if s.tasks.entries ≠ [] ∧ s.allSucceeded = true then
        if uncaught = none then s.setStatus .succeeded .succeeded
        else s.setStatus .running .running
      else (readyRuns spec (s.setStatus .running .running)).2
    else s := by
  simp only [resume, read_bind, ensure_bind, update_bind, apply_ite Prod.snd, Raising.ite_apply]
  cases uncaught <;> rfl

theorem cancel_state : (cancel s).2 =
    if s.status = .cancelled ∨ s.status = .succeeded ∨ s.status = .failed then s
    else (s.tasks.entries.foldl cancelTask s).cancelParent := by
  simp only [cancel, read_bind, ensure_bind, update_bind, pure_apply, apply_ite Prod.snd,
    Raising.ite_apply]
  split_ifs <;> simp_all

theorem retryTask_state (taskId : String) : (retryTask spec taskId s).2 =
    match s.tasks.get? taskId with
    | none => s
    | some task =>
      if task.status.retryable = true then
        (readyRuns spec ((s.resetTask taskId).setStatus .running .running)).2
      else s := by
  simp only [retryTask, read_bind]
  cases s.tasks.get? taskId with
  | none => rfl
  | some task => simp only [ensure_bind, update_bind, apply_ite Prod.snd]

theorem completeChild_state (runId : Nat) (outcome : Outcome) (uncaught : Option String) :
    (completeChild spec runId outcome uncaught s).2 =
    match s.taskForChildRun runId with
    | none => s
    | some task =>
      if task.status = .succeeded ∨ task.status = .failed ∨ task.status = .cancelled then s
      else if outcome.status = .succeeded then
        if (s.succeedTask task.taskId outcome).allSucceeded = true then
          if s.status = .paused ∨ uncaught ≠ none then s.succeedTask task.taskId outcome
          else (s.succeedTask task.taskId outcome).setStatus .succeeded .succeeded
        else (readyRuns spec (s.succeedTask task.taskId outcome)).2
      else if s.status = .cancelled ∨ s.status = .paused then s.endTask task.taskId outcome
      else (s.endTask task.taskId outcome).failWorkflow := by
  simp only [completeChild, read_bind]
  cases s.taskForChildRun runId with
  | none => rfl
  | some task =>
    simp only [update_bind, read_bind, pure_apply, apply_ite Prod.snd, Raising.ite_apply]
    cases uncaught <;> split_ifs <;> simp_all [synthesize, bind_apply]

end States

end WorkflowStore

structure TaskOrder (spec : WorkflowSpec) where
  ids : List String
  perm : ids.Perm spec.taskIds

/-- `create_workflow` -/
def WorkflowStore.created {spec : WorkflowSpec} (order : TaskOrder spec) : WorkflowStore where
  status := .awaitingApproval
  parentStatus := .awaitingApproval
  tasks := ⟨order.ids.map fun id => { taskId := id }, by
    have same : (order.ids.map fun id => ({ taskId := id } : WorkflowTask)).map
        WorkflowTask.taskId = order.ids := by simp [Function.comp_def]
    rw [same]
    exact order.perm.nodup_iff.mpr spec.ids_unique⟩
  runs := []

end Taroai.Workflow
