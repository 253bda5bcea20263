import Mathlib.Logic.Relation
import Taroai.Workflow.Safety

/-! What the operations of the coordinator write, one record at a time: a task is started, runs,
or ends. Only `retry_task` takes a task back. What holds of the tasks and of their child runs
over all operations is derived from these writes. -/

namespace Taroai.Workflow

open Relation

/-- `complete_child` takes no report for the task any more. -/
def WorkflowTaskStatus.ended : WorkflowTaskStatus → Bool
  | succeeded | failed | cancelled => true
  | pending | queued | running | blocked => false

namespace WorkflowStore

variable {spec : WorkflowSpec} {s s' t : WorkflowStore}

inductive Write (spec : WorkflowSpec) (s : WorkflowStore) : WorkflowStore → Prop where
  | start (task : WorkflowTask) (startable : Startable spec s task)
      (running : s.status = .running) : Write spec s (s.createTaskRun task)
  | run (task : WorkflowTask) (inside : task ∈ s.tasks.entries) (queued : task.status = .queued) :
      Write spec s (s.updateTask task.taskId fun stored => { stored with status := .running })
  | finish (task : WorkflowTask) (changes : WorkflowTask → WorkflowTask)
      (inside : task ∈ s.tasks.entries) (unfinished : task.status.ended = false)
      (ended : (changes task).status.ended = true)
      (child : (changes task).childRunId = task.childRunId) :
      Write spec s (s.updateTask task.taskId changes)
  | runs (runId : Nat) (f : ChildRun → ChildRun) (keeps : ∀ run, (f run).taskId = run.taskId) :
      Write spec s { s with runs := s.runs.modify runId f }
  | status (status : WorkflowStatus) (parentStatus : RunStatus) :
      Write spec s (s.setStatus status parentStatus)

abbrev Writes (spec : WorkflowSpec) : WorkflowStore → WorkflowStore → Prop :=
  ReflTransGen (Write spec)

section Operations

theorem writes_createTaskRuns (ready : List WorkflowTask)
    (distinct : (ready.map WorkflowTask.taskId).Nodup)
    (startable : ∀ task ∈ ready, Startable spec s task) (running : s.status = .running) :
    Writes spec s (s.createTaskRuns ready).2 := by
  induction ready generalizing s with
  | nil => exact .refl
  | cons task rest ih =>
    rw [List.map_cons, List.nodup_cons] at distinct
    have first := startable task List.mem_cons_self
    refine .head (.start task first running) (ih distinct.2 (fun other member => ?_) running)
    refine startable_createTaskRun first (startable other (List.mem_cons_of_mem task member)) ?_
    exact fun same => distinct.1 (List.mem_map.mpr ⟨other, member, same⟩)

theorem writes_readyRuns (s : WorkflowStore) : Writes spec s (readyRuns spec s).2 := by
  by_cases running : s.status = .running
  · have listed : (s.readyTasks spec).Sublist s.tasks.entries := readyTasks_sublist
    exact writes_createTaskRuns _ ((listed.map WorkflowTask.taskId).nodup s.tasks.nodup)
      (fun _ => startable_of_readyTasks) running
  · have none : s.readyTasks spec = [] := by simp [readyTasks, running]
    rw [readyRuns, none]
    exact .refl

theorem writes_start (s : WorkflowStore) :
    Writes spec s (readyRuns spec (s.setStatus .running .running)).2 :=
  .head (.status _ _) (writes_readyRuns _)

theorem writes_markRunning (runId : Nat) : Writes spec s (s.markRunning runId) := by
  unfold markRunning
  split
  · exact .refl
  · next task found =>
    split
    · exact .refl
    · next queued => exact .single (.run task (mem_of_taskForChildRun found).1 (not_not.mp queued))

theorem writes_cancelChild (task : WorkflowTask) : Writes spec s (s.cancelChild task) := by
  unfold cancelChild
  split
  · exact .refl
  · split
    · exact .single (.runs _ _ fun run => by split <;> rfl)
    · exact .refl

theorem writes_cancelled {task : WorkflowTask} (inside : task ∈ s.tasks.entries)
    (unfinished : task.status.ended = false) :
    Writes spec s ((s.cancelChild task).updateTask task.taskId fun stored =>
      { stored with status := .cancelled }) := by
  rw [← cancelChild_tasks task] at inside
  exact (writes_cancelChild task).tail (.finish task _ inside unfinished rfl rfl)

theorem writes_failWorkflow : Writes spec s s.failWorkflow := by
  have siblings : Writes spec s (s.tasks.entries.foldl cancelSibling s) := by
    refine foldl_listed (fun _ => .refl) (fun _ _ _ => .trans) ?_ mem_cancelSibling _
      s.tasks.nodup fun task member => member
    intro s task inside
    unfold cancelSibling
    split_ifs with cancelled
    · refine writes_cancelled inside ?_
      cases status : task.status <;> simp_all [WorkflowTaskStatus.active, WorkflowTaskStatus.ended]
    · exact .refl
  exact siblings.tail (.status .failed .failed)

theorem writes_cancelTasks : Writes spec s (s.tasks.entries.foldl cancelTask s) := by
  refine foldl_listed (fun _ => .refl) (fun _ _ _ => .trans) ?_ mem_cancelTask _
    s.tasks.nodup fun task member => member
  intro s task inside
  unfold cancelTask
  split_ifs with cancellable
  · refine writes_cancelled inside ?_
    cases status : task.status <;> simp_all [WorkflowTaskStatus.cancellable, WorkflowTaskStatus.ended]
  · exact writes_cancelChild task

theorem ended_iff {status : WorkflowTaskStatus} :
    status.ended = true ↔ status = .succeeded ∨ status = .failed ∨ status = .cancelled := by
  cases status <;> simp [WorkflowTaskStatus.ended]

theorem completeChild_of_ended {runId : Nat}
    (ended : ∀ task, s.taskForChildRun runId = some task → task.status.ended = true)
    (outcome : Outcome) (uncaught : Option String) :
    completeChild spec runId outcome uncaught s = (.ok [], s) := by
  simp only [completeChild, Raising.read_bind]
  cases found : s.taskForChildRun runId with
  | none => rfl
  | some task => simp only [if_pos (ended_iff.mp (ended task found)), Raising.pure_apply]

theorem writes_report {runId : Nat} {task : WorkflowTask}
    (found : s.taskForChildRun runId = some task) (unfinished : task.status.ended = false)
    (outcome : Outcome) (uncaught : Option String) :
    ∃ changes : WorkflowTask → WorkflowTask, (changes task).status.ended = true ∧
      (changes task).childRunId = task.childRunId ∧
      Writes spec (s.updateTask task.taskId changes)
        (completeChild spec runId outcome uncaught s).2 := by
  rw [completeChild_state, found]
  have open' : ¬ (task.status = .succeeded ∨ task.status = .failed ∨ task.status = .cancelled) := by
    rw [← ended_iff, unfinished]
    exact Bool.false_ne_true
  simp only [if_neg open']
  by_cases success : outcome.status = .succeeded
  · refine ⟨fun stored =>
      { stored with status := .succeeded, summary := outcome.summary, error := none }, rfl, rfl, ?_⟩
    rw [if_pos success]
    split_ifs
    · exact .refl
    · exact .single (.status _ _)
    · exact writes_readyRuns _
  · refine ⟨fun stored =>
      { stored with status := outcome.failedStatus, error := some outcome.error }, ?_, rfl, ?_⟩
    · simp only [Outcome.failedStatus]
      split <;> rfl
    · rw [if_neg success]
      split_ifs
      · exact .refl
      · exact writes_failWorkflow

theorem writes_completeChild (runId : Nat) (outcome : Outcome) (uncaught : Option String) :
    Writes spec s (completeChild spec runId outcome uncaught s).2 := by
  by_cases past : ∀ task, s.taskForChildRun runId = some task → task.status.ended = true
  · rw [completeChild_of_ended past]
  · push Not at past
    obtain ⟨task, found, unfinished⟩ := past
    have unfinished : task.status.ended = false := Bool.eq_false_of_not_eq_true unfinished
    obtain ⟨changes, ended, child, writes⟩ := writes_report found unfinished outcome uncaught
    exact .head (.finish task changes (mem_of_taskForChildRun found).1 unfinished ended child) writes

theorem writes_step (spec : WorkflowSpec) (s : WorkflowStore) (label : Label)
    (other : ∀ taskId, label ≠ .retryTask taskId) : Writes spec s (perform spec label s).2 := by
  cases label with
  | approve =>
    change Writes spec s (approve spec s).2
    rw [approve_state]
    split
    · exact writes_start s
    · exact .refl
  | readyRuns => exact writes_readyRuns s
  | markRunning runId => exact writes_markRunning runId
  | completeChild runId outcome uncaught => exact writes_completeChild runId outcome uncaught
  | retryTask taskId => exact absurd rfl (other taskId)
  | pause =>
    change Writes spec s (pause s).2
    rw [pause_state]
    split
    · exact .single (.status _ _)
    · exact .refl
  | resume uncaught =>
    change Writes spec s (resume spec uncaught s).2
    rw [resume_state]
    split_ifs
    · exact .single (.status _ _)
    · exact .single (.status _ _)
    · exact writes_start s
    · exact .refl
  | cancel =>
    change Writes spec s (cancel s).2
    rw [cancel_state]
    split
    · exact .refl
    · exact writes_cancelTasks.tail (.status _ _)
  | runStatus runId status => exact .single (.runs _ _ fun _ => rfl)

theorem writes_retryTask (spec : WorkflowSpec) (s : WorkflowStore) (taskId : String) :
    (retryTask spec taskId s).2 = s ∨
      ∃ task ∈ s.tasks.entries, task.taskId = taskId ∧ task.status.retryable = true ∧
        Writes spec (s.resetTask taskId) (retryTask spec taskId s).2 := by
  rw [retryTask_state]
  split
  · exact Or.inl rfl
  · next task present =>
    obtain ⟨inside, same⟩ := Table.get?_eq_some.mp present
    split
    · next retryable => exact Or.inr ⟨task, inside, same, retryable, writes_start _⟩
    · exact Or.inl rfl

end Operations

end WorkflowStore

end Taroai.Workflow
