import Taroai.Workflow.Coordinator

/-! Dependency safety and the concurrency cap, over all runs of the coordinator: a started task
has its dependencies succeeded, and it is started under the cap. -/

namespace Taroai.Workflow

def WorkflowTaskStatus.started : WorkflowTaskStatus → Bool
  | queued | running | succeeded => true
  | pending | failed | cancelled | blocked => false

namespace WorkflowStore

variable {spec : WorkflowSpec} {s s' : WorkflowStore}

def Succeeded (s : WorkflowStore) (taskId : String) : Prop :=
  ∃ task ∈ s.tasks.entries, task.taskId = taskId ∧ task.status = .succeeded

def createdFor (s : WorkflowStore) (taskId : String) : Nat :=
  (s.runs.map ChildRun.taskId).count taskId

structure DependencySafe (spec : WorkflowSpec) (s : WorkflowStore) : Prop where
  dependencies : ∀ task ∈ s.tasks.entries, task.status.started = true →
    ∀ d, Precedes spec.tasks d task.taskId → s.Succeeded d
  capped : s.active ≤ spec.maxConcurrency
  counted : ∀ task ∈ s.tasks.entries, task.attempts = s.createdFor task.taskId

/-- The invariant: besides, the tasks are those of the specification, an active task has a child
run, and a pending one has none. -/
structure Safe (spec : WorkflowSpec) (s : WorkflowStore) : Prop
    extends DependencySafe spec s where
  ids : (s.tasks.entries.map WorkflowTask.taskId).Perm spec.taskIds
  linked : ∀ task ∈ s.tasks.entries, task.childRunId ≠ none →
    task.status ≠ .pending ∧ task.status ≠ .blocked
  childed : ∀ task ∈ s.tasks.entries, task.status.active = true → task.childRunId ≠ none

def Sound (spec : WorkflowSpec) (s s' : WorkflowStore) : Prop :=
  Safe spec s → Safe spec s' ∧ ∀ d, s.Succeeded d → s'.Succeeded d

theorem Sound.refl (s : WorkflowStore) : Sound spec s s := fun safe => ⟨safe, fun _ done => done⟩

theorem Sound.trans {s t u : WorkflowStore} (first : Sound spec s t) (next : Sound spec t u) :
    Sound spec s u := by
  intro safe
  obtain ⟨safe, kept⟩ := first safe
  obtain ⟨safe, kept'⟩ := next safe
  exact ⟨safe, fun d done => kept' d (kept d done)⟩

structure Quiet (before after : WorkflowTask) : Prop where
  succeeded : before.status = .succeeded → after.status = .succeeded
  started : after.status.started = true → before.status.started = true
  active : after.status.active = true → before.status.active = true ∧ after.childRunId ≠ none
  attempts : after.attempts = before.attempts
  linked : after.childRunId ≠ none → after.status ≠ .pending ∧ after.status ≠ .blocked

theorem mem_updateTask {taskId : String} {changes : WorkflowTask → WorkflowTask}
    {task : WorkflowTask} (member : task ∈ (s.updateTask taskId changes).tasks.entries) :
    ∃ old ∈ s.tasks.entries, task.taskId = old.taskId ∧
      (task = old ∧ old.taskId ≠ taskId ∨
        task = { changes old with taskId := old.taskId } ∧ old.taskId = taskId) := by
  obtain ⟨old, inside, rfl⟩ := List.mem_map.mp member
  refine ⟨old, inside, ?_⟩
  by_cases same : old.taskId = taskId
  · rw [if_pos same]
    exact ⟨rfl, Or.inr ⟨rfl, same⟩⟩
  · rw [if_neg same]
    exact ⟨rfl, Or.inl ⟨rfl, same⟩⟩

theorem updateTask_of_mem {taskId : String} (changes : WorkflowTask → WorkflowTask)
    {old : WorkflowTask} (inside : old ∈ s.tasks.entries) :
    (if old.taskId = taskId then { changes old with taskId := old.taskId } else old) ∈
      (s.updateTask taskId changes).tasks.entries :=
  List.mem_map.mpr ⟨old, inside, rfl⟩

theorem mem_updateTask_of_ne {taskId : String} (changes : WorkflowTask → WorkflowTask)
    {old : WorkflowTask} (inside : old ∈ s.tasks.entries) (differs : old.taskId ≠ taskId) :
    old ∈ (s.updateTask taskId changes).tasks.entries := by
  have kept : (if old.taskId = taskId then { changes old with taskId := old.taskId } else old) ∈
      (s.updateTask taskId changes).tasks.entries := updateTask_of_mem changes inside
  rwa [if_neg differs] at kept

theorem eq_of_taskId {old task : WorkflowTask} (inside : old ∈ s.tasks.entries)
    (listed : task ∈ s.tasks.entries) (same : old.taskId = task.taskId) : old = task :=
  List.inj_on_of_nodup_map s.tasks.nodup inside listed same

theorem ids_updateTask (taskId : String) (changes : WorkflowTask → WorkflowTask) :
    (s.updateTask taskId changes).tasks.entries.map WorkflowTask.taskId =
      s.tasks.entries.map WorkflowTask.taskId := by
  simp only [updateTask, Table.map, List.map_map]
  refine List.map_congr_left fun task _ => ?_
  simp only [Function.comp_apply]
  split <;> rfl

theorem Succeeded.updateTask {taskId d : String} {changes : WorkflowTask → WorkflowTask}
    (kept : ∀ task ∈ s.tasks.entries, task.taskId = taskId → task.status = .succeeded →
      (changes task).status = .succeeded)
    (done : s.Succeeded d) : (s.updateTask taskId changes).Succeeded d := by
  obtain ⟨task, inside, rfl, succeeded⟩ := done
  refine ⟨_, updateTask_of_mem changes inside, ?_⟩
  by_cases same : task.taskId = taskId
  · rw [if_pos same]
    exact ⟨rfl, kept task inside same succeeded⟩
  · rw [if_neg same]
    exact ⟨rfl, succeeded⟩

theorem sound_updateTask {listed : WorkflowTask} {changes : WorkflowTask → WorkflowTask}
    (stored : listed ∈ s.tasks.entries) (quiet : Safe spec s → Quiet listed (changes listed)) :
    Sound spec s (s.updateTask listed.taskId changes) := by
  intro safe
  have quiet (task : WorkflowTask) (inside : task ∈ s.tasks.entries)
      (same : task.taskId = listed.taskId) : Quiet task (changes task) := by
    rw [eq_of_taskId inside stored same]
    exact quiet safe
  have kept (d : String) (done : s.Succeeded d) : (s.updateTask listed.taskId changes).Succeeded d :=
    done.updateTask fun task inside same => (quiet task inside same).succeeded
  refine ⟨⟨⟨?_, ?_, ?_⟩, ?_, ?_, ?_⟩, kept⟩
  · intro task member started d precedes
    obtain ⟨old, inside, sameId, ⟨rfl, -⟩ | ⟨rfl, same⟩⟩ := mem_updateTask member
    · exact kept d (safe.dependencies _ inside started d precedes)
    · exact kept d (safe.dependencies old inside ((quiet old inside same).started started) d
        precedes)
  · refine Nat.le_trans ?_ safe.capped
    rw [active, updateTask, Table.map, List.countP_map]
    refine List.countP_mono_left fun task inside counted => ?_
    simp only [Function.comp_apply] at counted
    split at counted
    · next same => exact ((quiet task inside same).active counted).1
    · exact counted
  · intro task member
    obtain ⟨old, inside, sameId, ⟨rfl, -⟩ | ⟨rfl, same⟩⟩ := mem_updateTask member
    · exact safe.counted _ inside
    · exact (quiet old inside same).attempts.trans (safe.counted old inside)
  · rw [ids_updateTask]
    exact safe.ids
  · intro task member child
    obtain ⟨old, inside, sameId, ⟨rfl, -⟩ | ⟨rfl, same⟩⟩ := mem_updateTask member
    · exact safe.linked _ inside child
    · exact (quiet old inside same).linked child
  · intro task member active
    obtain ⟨old, inside, sameId, ⟨rfl, -⟩ | ⟨rfl, same⟩⟩ := mem_updateTask member
    · exact safe.childed _ inside active
    · exact ((quiet old inside same).active active).2

theorem sound_of_same (tasks : s'.tasks = s.tasks)
    (runs : s'.runs.map ChildRun.taskId = s.runs.map ChildRun.taskId) : Sound spec s s' := by
  obtain ⟨status, parent, given, created⟩ := s'
  obtain rfl : given = s.tasks := tasks
  intro safe
  refine ⟨⟨⟨safe.dependencies, safe.capped, ?_⟩, safe.ids, safe.linked, safe.childed⟩,
    fun _ done => done⟩
  intro task member
  rw [safe.counted task member, createdFor, createdFor, runs]

theorem taskIds_modify (runId : Nat) (f : ChildRun → ChildRun)
    (keeps : ∀ run, (f run).taskId = run.taskId) :
    (s.runs.modify runId f).map ChildRun.taskId = s.runs.map ChildRun.taskId := by
  apply List.ext_getElem?
  intro n
  simp only [List.getElem?_map, List.getElem?_modify]
  cases s.runs[n]? with
  | none => rfl
  | some run =>
    by_cases here : runId = n <;> simp [here, keeps]

theorem sound_modify (runId : Nat) (f : ChildRun → ChildRun)
    (keeps : ∀ run, (f run).taskId = run.taskId) :
    Sound spec s { s with runs := s.runs.modify runId f } :=
  sound_of_same rfl (taskIds_modify runId f keeps)

theorem sound_cancelRun (runId : Nat) : Sound spec s (s.cancelRun runId) :=
  sound_modify runId _ fun run => by split <;> rfl

theorem createTaskRun_active_le (task : WorkflowTask) :
    (s.createTaskRun task).active ≤ s.active + 1 :=
  Table.countP_map_key_le s.tasks task.taskId _ _

structure Startable (spec : WorkflowSpec) (s : WorkflowStore) (task : WorkflowTask) : Prop where
  inside : task ∈ s.tasks.entries
  pending : task.status = .pending
  done : ∀ d, Precedes spec.tasks d task.taskId → s.Succeeded d

theorem succeeded_createTaskRun {task : WorkflowTask} (startable : Startable spec s task)
    (d : String) (done : s.Succeeded d) : (s.createTaskRun task).Succeeded d := by
  refine Succeeded.updateTask (s := { s with runs := _ }) (fun old inside same succeeded => ?_) done
  rw [eq_of_taskId inside startable.inside same, startable.pending] at succeeded
  cases succeeded

theorem startable_createTaskRun {task other : WorkflowTask} (startable : Startable spec s task)
    (ready : Startable spec s other) (differs : other.taskId ≠ task.taskId) :
    Startable spec (s.createTaskRun task) other where
  inside := mem_updateTask_of_ne (s := { s with runs := _ }) _ ready.inside differs
  pending := ready.pending
  done := fun d precedes => succeeded_createTaskRun startable d (ready.done d precedes)

theorem createdFor_createTaskRun (task : WorkflowTask) (taskId : String) :
    (s.createTaskRun task).createdFor taskId =
      s.createdFor taskId + if task.taskId = taskId then 1 else 0 := by
  simp only [createdFor, createTaskRun, updateTask, List.map_append, List.count_append,
    List.map_cons, List.map_nil, List.count_singleton, beq_iff_eq]

theorem sound_createTaskRun {task : WorkflowTask} (startable : Startable spec s task)
    (free : s.active < spec.maxConcurrency) : Sound spec s (s.createTaskRun task) := by
  intro safe
  have kept := succeeded_createTaskRun startable
  refine ⟨⟨⟨?_, ?_, ?_⟩, ?_, ?_, ?_⟩, kept⟩
  · intro other member started d precedes
    obtain ⟨old, inside, sameId, ⟨rfl, -⟩ | ⟨rfl, same⟩⟩ := mem_updateTask member
    · exact kept d (safe.dependencies _ inside started d precedes)
    · rw [sameId, same] at precedes
      exact kept d (startable.done d precedes)
  · exact Nat.le_trans (createTaskRun_active_le task) free
  · intro other member
    obtain ⟨old, inside, sameId, ⟨rfl, differs⟩ | ⟨rfl, same⟩⟩ := mem_updateTask member
    · rw [createdFor_createTaskRun, if_neg (Ne.symm differs)]
      exact safe.counted _ inside
    · obtain rfl := eq_of_taskId inside startable.inside same
      rw [createdFor_createTaskRun, if_pos rfl]
      exact congrArg (· + 1) (safe.counted _ inside)
  · exact (ids_updateTask (s := { s with runs := _ }) _ _).symm ▸ safe.ids
  · intro other member child
    obtain ⟨old, inside, sameId, ⟨rfl, -⟩ | ⟨rfl, same⟩⟩ := mem_updateTask member
    · exact safe.linked _ inside child
    · exact ⟨by simp, by simp⟩
  · intro other member active
    obtain ⟨old, inside, sameId, ⟨rfl, -⟩ | ⟨rfl, same⟩⟩ := mem_updateTask member
    · exact safe.childed _ inside active
    · simp

theorem sound_createTaskRuns (ready : List WorkflowTask)
    (distinct : (ready.map WorkflowTask.taskId).Nodup)
    (startable : ∀ task ∈ ready, Startable spec s task)
    (free : s.active + ready.length ≤ spec.maxConcurrency) :
    Sound spec s (s.createTaskRuns ready).2 := by
  induction ready generalizing s with
  | nil => exact Sound.refl s
  | cons task rest ih =>
    intro safe
    rw [List.map_cons, List.nodup_cons] at distinct
    rw [List.length_cons] at free
    have ready := startable task List.mem_cons_self
    have grown := createTaskRun_active_le (s := s) task
    refine (sound_createTaskRun ready (by omega)).trans
      (ih distinct.2 (fun other member => ?_) (by omega)) safe
    refine startable_createTaskRun ready (startable other (List.mem_cons_of_mem task member)) ?_
    exact fun same => distinct.1 (List.mem_map.mpr ⟨other, member, same⟩)

theorem startable_of_isReady {task : WorkflowTask} (inside : task ∈ s.tasks.entries)
    (ready : s.isReady spec task = true) : Startable spec s task := by
  simp only [isReady, Bool.and_eq_true, decide_eq_true_eq, Option.any_eq_true,
    List.all_eq_true] at ready
  obtain ⟨pending, given, found, done⟩ := ready
  refine ⟨inside, pending, fun d precedes => ?_⟩
  have listed := done d ((WorkflowSpec.precedes_iff found d).mp precedes)
  obtain ⟨other, member, same⟩ := List.mem_map.mp listed
  obtain ⟨member, succeeded⟩ := List.mem_filter.mp member
  exact ⟨other, member, same, of_decide_eq_true succeeded⟩

theorem startable_of_readyTasks {task : WorkflowTask} (member : task ∈ s.readyTasks spec) :
    Startable spec s task := by
  unfold readyTasks at member
  split at member
  · cases member
  · simp only at member
    split at member
    · cases member
    · obtain ⟨inside, ready⟩ := List.mem_filter.mp (List.mem_of_mem_take member)
      exact startable_of_isReady inside ready

theorem readyTasks_sublist : (s.readyTasks spec).Sublist s.tasks.entries := by
  unfold readyTasks
  split
  · exact List.nil_sublist _
  · simp only
    split
    · exact List.nil_sublist _
    · exact (List.take_sublist _ _).trans List.filter_sublist

theorem readyTasks_length_le (capped : s.active ≤ spec.maxConcurrency) :
    s.active + (s.readyTasks spec).length ≤ spec.maxConcurrency := by
  unfold readyTasks
  split
  · exact capped
  · simp only
    split
    · exact capped
    · have := List.length_take_le (spec.maxConcurrency - s.active)
        (s.tasks.entries.filter (s.isReady spec))
      omega

theorem sound_readyRuns (s : WorkflowStore) : Sound spec s (readyRuns spec s).2 := by
  intro safe
  have listed : (s.readyTasks spec).Sublist s.tasks.entries := readyTasks_sublist
  have distinct := (listed.map WorkflowTask.taskId).nodup s.tasks.nodup
  exact sound_createTaskRuns (s.readyTasks spec) distinct (fun task => startable_of_readyTasks)
    (readyTasks_length_le safe.capped) safe

theorem mem_of_taskForChildRun {runId : Nat} {task : WorkflowTask}
    (found : s.taskForChildRun runId = some task) :
    task ∈ s.tasks.entries ∧ task.childRunId = some runId :=
  ⟨List.mem_of_find?_eq_some found, by simpa using List.find?_some found⟩

theorem sound_markRunning (runId : Nat) : Sound spec s (s.markRunning runId) := by
  unfold markRunning
  split
  · exact Sound.refl s
  · next task found =>
    obtain ⟨inside, child⟩ := mem_of_taskForChildRun found
    split
    · exact Sound.refl s
    · next queued =>
      have queued : task.status = .queued := not_not.mp queued
      refine sound_updateTask inside fun safe => ⟨?_, ?_, ?_, rfl, ?_⟩
      · simp [queued]
      · simp [queued, WorkflowTaskStatus.started]
      · simp [queued, WorkflowTaskStatus.active, child]
      · simp

theorem quiet_of_unstarted {before after : WorkflowTask} (open' : before.status ≠ .succeeded)
    (attempts : after.attempts = before.attempts) (unstarted : after.status.started = false)
    (linked : after.childRunId ≠ none → after.status ≠ .pending ∧ after.status ≠ .blocked) :
    Quiet before after where
  succeeded := fun done => absurd done open'
  started := fun started => by rw [unstarted] at started; cases started
  active := fun active => by
    cases status : after.status <;> simp [status, WorkflowTaskStatus.started,
      WorkflowTaskStatus.active] at unstarted active
  attempts := attempts
  linked := linked

theorem foldl_listed {R : WorkflowStore → WorkflowStore → Prop} (refl : ∀ s, R s s)
    (trans : ∀ s t u, R s t → R t u → R s u)
    {body : WorkflowStore → WorkflowTask → WorkflowStore}
    (each : ∀ s task, task ∈ s.tasks.entries → R s (body s task))
    (frame : ∀ s task other, other ∈ s.tasks.entries → other.taskId ≠ task.taskId →
      other ∈ (body s task).tasks.entries)
    (listed : List WorkflowTask) (distinct : (listed.map WorkflowTask.taskId).Nodup)
    (inside : ∀ task ∈ listed, task ∈ s.tasks.entries) : R s (listed.foldl body s) := by
  induction listed generalizing s with
  | nil => exact refl s
  | cons task rest ih =>
    rw [List.map_cons, List.nodup_cons] at distinct
    refine trans _ _ _ (each s task (inside task List.mem_cons_self)) (ih distinct.2 ?_)
    intro other member
    refine frame s task other (inside other (List.mem_cons_of_mem task member)) fun same => ?_
    exact distinct.1 (List.mem_map.mpr ⟨other, member, same⟩)

theorem active_unsucceeded {task : WorkflowTask} (active : task.status.active = true) :
    task.status ≠ .succeeded := by
  intro done
  rw [done] at active
  cases active

theorem cancelChild_tasks (task : WorkflowTask) : (s.cancelChild task).tasks = s.tasks := by
  unfold cancelChild
  split
  · rfl
  · split <;> rfl

theorem sound_cancelChild (task : WorkflowTask) : Sound spec s (s.cancelChild task) := by
  unfold cancelChild
  split
  · exact Sound.refl s
  · split
    · exact sound_cancelRun _
    · exact Sound.refl s

theorem sound_cancelled {task : WorkflowTask} (inside : task ∈ s.tasks.entries)
    (open' : task.status ≠ .succeeded) :
    Sound spec s ((s.cancelChild task).updateTask task.taskId fun stored =>
      { stored with status := .cancelled }) := by
  rw [← cancelChild_tasks task] at inside
  refine (sound_cancelChild task).trans (sound_updateTask inside fun _ => ?_)
  exact quiet_of_unstarted open' rfl rfl fun _ => by simp

theorem mem_cancelled {task other : WorkflowTask} (inside : other ∈ s.tasks.entries)
    (differs : other.taskId ≠ task.taskId) :
    other ∈ ((s.cancelChild task).updateTask task.taskId fun stored =>
      { stored with status := .cancelled }).tasks.entries := by
  rw [← cancelChild_tasks task] at inside
  exact mem_updateTask_of_ne _ inside differs

theorem mem_cancelSibling (s : WorkflowStore) (task other : WorkflowTask)
    (inside : other ∈ s.tasks.entries) (differs : other.taskId ≠ task.taskId) :
    other ∈ (s.cancelSibling task).tasks.entries := by
  unfold cancelSibling
  split_ifs
  · exact mem_cancelled inside differs
  · exact inside

theorem mem_cancelTask (s : WorkflowStore) (task other : WorkflowTask)
    (inside : other ∈ s.tasks.entries) (differs : other.taskId ≠ task.taskId) :
    other ∈ (s.cancelTask task).tasks.entries := by
  unfold cancelTask
  split_ifs
  · exact mem_cancelled inside differs
  · rw [cancelChild_tasks]
    exact inside

theorem sound_failWorkflow : Sound spec s s.failWorkflow := by
  have siblings : Sound spec s (s.tasks.entries.foldl cancelSibling s) := by
    refine foldl_listed Sound.refl (fun _ _ _ => Sound.trans) ?_ mem_cancelSibling _
      s.tasks.nodup fun task member => member
    intro s task inside
    unfold cancelSibling
    split_ifs with cancelled
    · exact sound_cancelled inside (active_unsucceeded cancelled.2)
    · exact Sound.refl s
  exact siblings.trans (sound_of_same rfl rfl)

theorem sound_cancelTasks : Sound spec s (s.tasks.entries.foldl cancelTask s) := by
  refine foldl_listed Sound.refl (fun _ _ _ => Sound.trans) ?_ mem_cancelTask _
    s.tasks.nodup fun task member => member
  intro s task inside
  unfold cancelTask
  split_ifs with cancellable
  · refine sound_cancelled inside fun done => ?_
    rw [done] at cancellable
    cases cancellable
  · exact sound_cancelChild task

theorem sound_setStatus (status : WorkflowStatus) (parentStatus : RunStatus) :
    Sound spec s (s.setStatus status parentStatus) := sound_of_same rfl rfl

theorem sound_start : Sound spec s (readyRuns spec (s.setStatus .running .running)).2 :=
  (sound_setStatus .running .running).trans (sound_readyRuns _)

theorem sound_approve : Sound spec s (approve spec s).2 := by
  rw [approve_state]
  split
  · exact sound_start
  · exact Sound.refl s

theorem sound_pause : Sound spec s (pause s).2 := by
  rw [pause_state]
  split
  · exact sound_setStatus _ _
  · exact Sound.refl s

theorem sound_resume (uncaught : Option String) : Sound spec s (resume spec uncaught s).2 := by
  rw [resume_state]
  split_ifs
  · exact sound_setStatus _ _
  · exact sound_setStatus _ _
  · exact sound_start
  · exact Sound.refl s

theorem sound_cancel : Sound spec s (cancel s).2 := by
  rw [cancel_state]
  split
  · exact Sound.refl s
  · exact sound_cancelTasks.trans (sound_setStatus _ _)

theorem sound_resetTask {task : WorkflowTask} (inside : task ∈ s.tasks.entries)
    (retryable : task.status.retryable = true) : Sound spec s (s.resetTask task.taskId) := by
  refine sound_updateTask inside fun _ => ?_
  refine quiet_of_unstarted (fun done => ?_) rfl rfl fun child => absurd rfl child
  rw [done] at retryable
  cases retryable

theorem sound_retryTask (taskId : String) : Sound spec s (retryTask spec taskId s).2 := by
  rw [retryTask_state]
  split
  · exact Sound.refl s
  · next task present =>
    obtain ⟨inside, rfl⟩ := Table.get?_eq_some.mp present
    split
    · next retryable => exact (sound_resetTask inside retryable).trans sound_start
    · exact Sound.refl s

section Completion

variable {task : WorkflowTask} {runId : Nat}

theorem active_of_open (safe : Safe spec s) (found : s.taskForChildRun runId = some task)
    (ended : ¬ (task.status = .succeeded ∨ task.status = .failed ∨ task.status = .cancelled)) :
    task.status.active = true := by
  obtain ⟨inside, child⟩ := mem_of_taskForChildRun found
  have linked := safe.linked task inside (by rw [child]; simp)
  cases status : task.status <;> simp_all [WorkflowTaskStatus.active]

theorem sound_succeedTask (found : s.taskForChildRun runId = some task)
    (ended : ¬ (task.status = .succeeded ∨ task.status = .failed ∨ task.status = .cancelled))
    (outcome : Outcome) : Sound spec s (s.succeedTask task.taskId outcome) := by
  refine sound_updateTask (mem_of_taskForChildRun found).1 fun safe => ?_
  have active := active_of_open safe found ended
  refine ⟨fun _ => rfl, fun _ => ?_, fun running => ?_, rfl, fun _ => by simp⟩
  · cases status : task.status <;> simp [status, WorkflowTaskStatus.active,
      WorkflowTaskStatus.started] at active ⊢
  · cases running

theorem sound_endTask (found : s.taskForChildRun runId = some task)
    (ended : ¬ (task.status = .succeeded ∨ task.status = .failed ∨ task.status = .cancelled))
    (outcome : Outcome) : Sound spec s (s.endTask task.taskId outcome) := by
  refine sound_updateTask (mem_of_taskForChildRun found).1 fun safe => ?_
  have active := active_of_open safe found ended
  refine quiet_of_unstarted (active_unsucceeded active) rfl ?_ fun _ => ?_
  all_goals
    unfold Outcome.failedStatus
    split <;> simp [WorkflowTaskStatus.started]

theorem sound_completeChild (runId : Nat) (outcome : Outcome) (uncaught : Option String) :
    Sound spec s (completeChild spec runId outcome uncaught s).2 := by
  rw [completeChild_state]
  cases found : s.taskForChildRun runId with
  | none => exact Sound.refl s
  | some task =>
    simp only
    split_ifs with ended
    · exact Sound.refl s
    · exact sound_succeedTask found ended outcome
    · exact (sound_succeedTask found ended outcome).trans (sound_setStatus _ _)
    · exact (sound_succeedTask found ended outcome).trans (sound_readyRuns _)
    · exact sound_endTask found ended outcome
    · exact (sound_endTask found ended outcome).trans sound_failWorkflow

end Completion

theorem sound_step (s : WorkflowStore) (label : Label) :
    Sound spec s (perform spec label s).2 := by
  cases label with
  | approve => exact sound_approve
  | readyRuns => exact sound_readyRuns s
  | markRunning runId => exact sound_markRunning runId
  | completeChild runId outcome uncaught => exact sound_completeChild runId outcome uncaught
  | retryTask taskId => exact sound_retryTask taskId
  | pause => exact sound_pause
  | resume uncaught => exact sound_resume uncaught
  | cancel => exact sound_cancel
  | runStatus runId status => exact sound_modify runId _ fun _ => rfl

theorem safe_created (order : TaskOrder spec) : Safe spec (created order) := by
  have fresh (task : WorkflowTask) (member : task ∈ (created order).tasks.entries) :
      task.status = .pending ∧ task.childRunId = none ∧ task.attempts = 0 := by
    obtain ⟨id, -, rfl⟩ := List.mem_map.mp member
    exact ⟨rfl, rfl, rfl⟩
  refine ⟨⟨?_, ?_, ?_⟩, ?_, ?_, ?_⟩
  · intro task member started
    rw [(fresh task member).1] at started
    cases started
  · have none : (created order).active = 0 := by
      rw [active, List.countP_eq_zero]
      intro task member
      rw [(fresh task member).1]
      decide
    rw [none]
    exact Nat.zero_le _
  · exact fun task member => (fresh task member).2.2
  · have same : (created order).tasks.entries.map WorkflowTask.taskId = order.ids := by
      simp [created, Function.comp_def]
    rw [same]
    exact order.perm
  · exact fun task member child => absurd (fresh task member).2.1 child
  · intro task member active
    rw [(fresh task member).1] at active
    cases active

theorem safe_run {order : TaskOrder spec} {labels : List Label}
    (ran : Machine.run (step spec) (created order) labels = some s) : Safe spec s := by
  refine Machine.invariant_of_step (fun s label s' safe moved => ?_) (safe_created order) ran
  obtain rfl := Option.some.inj moved
  exact (sound_step s label safe).1

/-- Every store that operations reach is dependency safe, and what has succeeded in it has
succeeded in every store that further operations reach. -/
theorem dependency_safety (order : TaskOrder spec) (labels later : List Label)
    (t : WorkflowStore) (ran : Machine.run (step spec) (created order) labels = some s)
    (continued : Machine.run (step spec) s later = some t) :
    DependencySafe spec s ∧ ∀ d, s.Succeeded d → t.Succeeded d := by
  have safe := safe_run ran
  refine ⟨safe.toDependencySafe, ?_⟩
  have kept := Machine.relation_run (R := Sound spec) Sound.refl (fun _ _ _ => Sound.trans)
    (fun s label s' moved => Option.some.inj moved ▸ sound_step s label) continued
  exact (kept safe).2

section Run

def twoSteps : WorkflowSpec where
  phases := [⟨"phase_1", [⟨"gather", []⟩, ⟨"report", ["gather"]⟩], by decide⟩]
  maxConcurrency := 4
  phases_nonempty := by decide
  concurrency_bounds := by decide
  tasks_length := by decide
  ids_unique := by decide
  phase_ids_unique := by decide
  known := by
    rintro d t ⟨task, member, -, depends⟩
    rcases List.mem_pair.mp member with rfl | rfl
    · cases depends
    · rw [List.mem_singleton.mp depends]
      decide
  acyclic := by
    refine Dag.acyclic_of_rank (fun id => if id = "report" then 1 else 0) ?_
    rintro d t ⟨task, member, rfl, depends⟩
    rcases List.mem_pair.mp member with rfl | rfl
    · cases depends
    · rw [List.mem_singleton.mp depends]
      decide

def listed : TaskOrder twoSteps := ⟨twoSteps.taskIds, List.Perm.refl _⟩

def completed : Outcome := ⟨.succeeded, "done", none⟩

theorem dependency_safety_gathered :
    DependencySafe twoSteps (Machine.final (step twoSteps) (created listed)
      [.approve, .markRunning 0, .completeChild 0 completed none] rfl) ∧
    ∀ d, Succeeded (Machine.final (step twoSteps) (created listed)
        [.approve, .markRunning 0, .completeChild 0 completed none] rfl) d →
      Succeeded (Machine.final (step twoSteps) (Machine.final (step twoSteps) (created listed)
        [.approve, .markRunning 0, .completeChild 0 completed none] rfl)
          [.pause, .completeChild 1 completed none, .resume none] rfl) d :=
  dependency_safety listed _ _ _ (Machine.run_final _ _ _ rfl) (Machine.run_final _ _ _ rfl)

end Run

end WorkflowStore

end Taroai.Workflow
