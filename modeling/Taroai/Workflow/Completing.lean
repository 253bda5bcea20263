import Taroai.Lib.Program
import Taroai.Workflow.Coordinator

/-! `complete_child` as the sequence of its accesses to the store, for the places where a worker
may die between two of them. Run alone, it is the operation of the coordinator. -/

namespace Taroai.Workflow

inductive PlanCall where
  | taskForChildRun (runId : Nat)
  | workflowStatus
  | listTasks
  | succeedTask (taskId : String) (outcome : WorkflowStore.Outcome)
  | endTask (taskId : String) (outcome : WorkflowStore.Outcome)
  /-- The thread, the message and the queued run of a task. -/
  | createChildRun (taskId : String)
  | linkTask (task : WorkflowTask) (runId : Nat)
  /-- Whether the stream of the synthesis raises nothing that is not caught. -/
  | synthesis
  | cancelSibling (task : WorkflowTask)
  | setStatus (status : WorkflowStatus) (parentStatus : RunStatus)
deriving DecidableEq, Repr

@[reducible] def PlanCall.Answer : PlanCall → Type
  | taskForChildRun _ => Option WorkflowTask
  | workflowStatus => WorkflowStatus
  | listTasks => List WorkflowTask
  | succeedTask _ _ => Unit
  | endTask _ _ => Unit
  | createChildRun _ => Nat
  | linkTask _ _ => Unit
  | synthesis => Bool
  | cancelSibling _ => Unit
  | setStatus _ _ => Unit

namespace WorkflowStore

/-- The answer to a call and the workflow after it, given what the environment proposes. -/
def respond (s : WorkflowStore) : (c : PlanCall) → c.Answer → c.Answer × WorkflowStore
  | .taskForChildRun runId, _ => (s.taskForChildRun runId, s)
  | .workflowStatus, _ => (s.status, s)
  | .listTasks, _ => (s.tasks.entries, s)
  | .succeedTask taskId outcome, _ => ((), s.succeedTask taskId outcome)
  | .endTask taskId outcome, _ => ((), s.endTask taskId outcome)
  | .createChildRun taskId, _ =>
    (s.runs.length, { s with runs := s.runs ++ [(⟨taskId, .queued⟩ : ChildRun)] })
  | .linkTask task runId, _ =>
    ((), s.updateTask task.taskId fun stored =>
      { stored with
        status := .queued
        childRunId := some runId
        attempts := task.attempts + 1 })
  | .synthesis, caught => (caught, s)
  | .cancelSibling task, _ => ((), s.cancelSibling task)
  | .setStatus status parentStatus, _ => ((), s.setStatus status parentStatus)

end WorkflowStore

abbrev PlanTask := Program PlanCall PlanCall.Answer

namespace Completing

variable (spec : WorkflowSpec)

abbrev call (c : PlanCall) : PlanTask c.Answer := Program.perform c

/-- The tasks that `ready_runs` starts, of the listed ones. -/
def readyAmong (tasks : List WorkflowTask) : List WorkflowTask :=
  let slots := spec.maxConcurrency - tasks.countP fun task => task.status.active
  let succeeded := (tasks.filter fun task => task.status = .succeeded).map WorkflowTask.taskId
  if slots = 0 then []
  else
    (tasks.filter fun task =>
      task.status = .pending &&
        (spec.task task.taskId).any fun given => given.dependsOn.all (· ∈ succeeded)).take slots

def createTaskRuns : List WorkflowTask → PlanTask (List Nat)
  | [] => return []
  | task :: rest => do
    let runId ← call (.createChildRun task.taskId)
    call (.linkTask task runId)
    let created ← createTaskRuns rest
    return runId :: created

def readyRuns : PlanTask (List Nat) := do
  if (← call .workflowStatus) = .running then
    createTaskRuns (readyAmong spec (← call .listTasks))
  else return []

def cancelSiblings : List WorkflowTask → PlanTask Unit
  | [] => return ()
  | task :: rest => do
    call (.cancelSibling task)
    cancelSiblings rest

def failWorkflow : PlanTask Unit := do
  cancelSiblings (← call .listTasks)
  call (.setStatus .failed .failed)

def synthesize : PlanTask Unit := do
  if ← call .synthesis then call (.setStatus .succeeded .succeeded) else .raise

def advance (workflow : WorkflowStatus) : PlanTask (List Nat) := do
  let tasks ← call .listTasks
  if tasks.all (fun task => task.status = .succeeded) then
    if workflow = .paused then return []
    else
      synthesize
      return []
  else readyRuns spec

def giveUp (workflow : WorkflowStatus) : PlanTask (List Nat) := do
  if workflow ≠ .cancelled ∧ workflow ≠ .paused then
    failWorkflow
    return []
  else return []

def completeTask (task : WorkflowTask) (outcome : WorkflowStore.Outcome) : PlanTask (List Nat) := do
  let workflow ← call .workflowStatus
  if outcome.status = .succeeded then
    call (.succeedTask task.taskId outcome)
    advance spec workflow
  else
    call (.endTask task.taskId outcome)
    giveUp workflow

def completeFound (outcome : WorkflowStore.Outcome) : Option WorkflowTask → PlanTask (List Nat)
  | none => return []
  | some task =>
    if task.status = .succeeded ∨ task.status = .failed ∨ task.status = .cancelled then return []
    else completeTask spec task outcome

def completeChild (runId : Nat) (outcome : WorkflowStore.Outcome) : PlanTask (List Nat) := do
  completeFound spec outcome (← call (.taskForChildRun runId))

section Alone

variable (propose : (c : PlanCall) → c.Answer) (s : WorkflowStore)

def alone {α : Type} (task : PlanTask α) (s : WorkflowStore) :
    Option (Option α × WorkflowStore) :=
  task.runIn (fun s c a => some (WorkflowStore.respond s c a)) propose s

theorem alone_bind {α β : Type} {task : PlanTask α} {result : Option α} {t : WorkflowStore}
    (ran : alone propose task s = some (result, t)) (f : α → PlanTask β) :
    alone propose (task >>= f) s =
      result.elim (some (none, t)) fun a => alone propose (f a) t := by
  unfold alone at ran ⊢
  rw [Program.runIn_bind, ran]
  cases result <;> rfl

theorem alone_createTaskRuns (tasks : List WorkflowTask) :
    alone propose (createTaskRuns tasks) s =
      some (some (s.createTaskRuns tasks).1, (s.createTaskRuns tasks).2) := by
  induction tasks generalizing s with
  | nil => rfl
  | cons task rest ih =>
    change alone propose (createTaskRuns rest >>= fun created => pure (s.runs.length :: created))
      (s.createTaskRun task) = _
    rw [alone_bind propose _ (ih _)]
    rfl

theorem readyTasks_eq : s.readyTasks spec =
    if s.status = .running then readyAmong spec s.tasks.entries else [] := by
  unfold WorkflowStore.readyTasks readyAmong
  by_cases running : s.status = .running
  · rw [if_neg (not_not.mpr running), if_pos running]
    rfl
  · rw [if_pos running, if_neg running]

theorem alone_readyRuns : alone propose (readyRuns spec) s =
    some ((WorkflowStore.readyRuns spec s).1.toOption, (WorkflowStore.readyRuns spec s).2) := by
  have created : (WorkflowStore.readyRuns spec s) =
      (.ok (s.createTaskRuns (s.readyTasks spec)).1, (s.createTaskRuns (s.readyTasks spec)).2) := rfl
  rw [created, readyTasks_eq]
  change alone propose (if s.status = .running then
    call .listTasks >>= fun tasks => createTaskRuns (readyAmong spec tasks) else pure []) s = _
  split
  · exact alone_createTaskRuns propose s _
  · rfl

theorem alone_cancelSiblings (tasks : List WorkflowTask) :
    alone propose (cancelSiblings tasks) s =
      some (some (), tasks.foldl WorkflowStore.cancelSibling s) := by
  induction tasks generalizing s with
  | nil => rfl
  | cons task rest ih => exact ih (s.cancelSibling task)

theorem alone_failWorkflow : alone propose failWorkflow s = some (some (), s.failWorkflow) := by
  change alone propose (cancelSiblings s.tasks.entries >>= fun _ =>
    call (.setStatus .failed .failed)) s = _
  rw [alone_bind propose _ (alone_cancelSiblings propose s _)]
  rfl

variable {propose}

theorem alone_synthesize {uncaught : Option String}
    (answers : propose .synthesis = uncaught.isNone) : alone propose synthesize s =
      some ((WorkflowStore.synthesize uncaught s).1.toOption,
        (WorkflowStore.synthesize uncaught s).2) := by
  change alone propose (if propose .synthesis then call (.setStatus .succeeded .succeeded)
    else .raise) s = _
  rw [answers]
  cases uncaught <;> rfl

theorem alone_completeChild (runId : Nat) (outcome : WorkflowStore.Outcome)
    {uncaught : Option String} (answers : propose .synthesis = uncaught.isNone) :
    alone propose (completeChild spec runId outcome) s =
      some ((WorkflowStore.completeChild spec runId outcome uncaught s).1.toOption,
        (WorkflowStore.completeChild spec runId outcome uncaught s).2) := by
  change alone propose (completeFound spec outcome (s.taskForChildRun runId)) s = _
  simp only [WorkflowStore.completeChild, Raising.read_bind]
  cases s.taskForChildRun runId with
  | none => rfl
  | some task =>
    by_cases ended : task.status = .succeeded ∨ task.status = .failed ∨ task.status = .cancelled
    · simp only [completeFound, if_pos ended]
      rfl
    · simp only [completeFound, if_neg ended, Raising.read_bind]
      by_cases succeeded : outcome.status = .succeeded
      · have after : alone propose (completeTask spec task outcome) s =
            alone propose (advance spec s.status) (s.succeedTask task.taskId outcome) := by
          change alone propose (if outcome.status = .succeeded then _ else _) s = _
          rw [if_pos succeeded]
          rfl
        simp only [if_pos succeeded, after, Raising.update_bind, Raising.read_bind]
        generalize s.succeedTask task.taskId outcome = s'
        change alone propose (if s'.allSucceeded then
          if s.status = .paused then pure [] else synthesize >>= fun _ => pure []
          else readyRuns spec) s' = _
        split
        · by_cases paused : s.status = .paused
          · simp only [paused, ne_eq, not_true_eq_false, if_true, if_false]
            rfl
          · simp only [paused, ne_eq, not_false_eq_true, if_true, if_false]
            rw [alone_bind propose _ (alone_synthesize s' answers)]
            cases uncaught <;> rfl
        · exact alone_readyRuns spec propose s'
      · have after : alone propose (completeTask spec task outcome) s =
            alone propose (giveUp s.status) (s.endTask task.taskId outcome) := by
          change alone propose (if outcome.status = .succeeded then _ else _) s = _
          rw [if_neg succeeded]
          rfl
        simp only [if_neg succeeded, after, Raising.update_bind, giveUp]
        by_cases going : s.status ≠ .cancelled ∧ s.status ≠ .paused
        · simp only [if_pos going]
          rw [alone_bind propose _ (alone_failWorkflow propose _)]
          rfl
        · simp only [if_neg going]
          rfl

end Alone

end Completing

end Taroai.Workflow
