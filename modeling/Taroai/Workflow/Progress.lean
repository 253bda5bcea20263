import Taroai.Workflow.Safety

/-! Progress of a running workflow. It has a task in flight as long as some open task has no
failed, cancelled or blocked task behind it, and `resume`, `retry_task` and the completion of a
child are the operations that can leave it running without such a task. -/

namespace Taroai.Workflow

open Relation

namespace WorkflowStore

variable {spec : WorkflowSpec} {s s' : WorkflowStore}

def Live (s : WorkflowStore) : Prop := s.status = .running → 0 < s.active

/-- Some task has not succeeded, and neither it nor a task that it needs, directly or through
others, has failed, was cancelled or is blocked. -/
def Movable (spec : WorkflowSpec) (s : WorkflowStore) : Prop :=
  ∃ task ∈ s.tasks.entries, task.status ≠ .succeeded ∧
    ∀ other ∈ s.tasks.entries,
      ReflTransGen (Precedes spec.tasks) other.taskId task.taskId → other.status.retryable = false

/-- After the last success nothing escapes the synthesis; before it some task can move. -/
def Continues (spec : WorkflowSpec) (s : WorkflowStore) (uncaught : Option String) : Prop :=
  if s.allSucceeded = true then uncaught = none else Movable spec s

/-- An operation that leaves the workflow running leaves it a task that can move. -/
def Advances (spec : WorkflowSpec) (s : WorkflowStore) : Label → Prop
  | .completeChild runId outcome uncaught => ∀ task, s.status = .running →
    s.taskForChildRun runId = some task → task.status.active = true →
    outcome.status = .succeeded → Continues spec (s.succeedTask task.taskId outcome) uncaught
  | .retryTask taskId => ∀ task, s.tasks.get? taskId = some task →
    task.status.retryable = true → Movable spec (s.resetTask taskId)
  | .resume uncaught => s.status = .paused → Continues spec s uncaught
  | .approve | .readyRuns | .markRunning _ | .pause | .cancel | .runStatus _ _ => True

section Active

theorem active_pos_iff : 0 < s.active ↔ ∃ task ∈ s.tasks.entries, task.status.active = true :=
  List.countP_pos_iff

theorem active_updateTask_ge {taskId : String} {changes : WorkflowTask → WorkflowTask}
    (keeps : ∀ task, task.status.active = true → (changes task).status.active = true) :
    s.active ≤ (s.updateTask taskId changes).active := by
  rw [active, active, updateTask, Table.map, List.countP_map]
  refine List.countP_mono_left fun task _ counted => ?_
  simp only [Function.comp_apply]
  split
  · exact keeps task counted
  · exact counted

theorem active_createTaskRun_ge (task : WorkflowTask) : s.active ≤ (s.createTaskRun task).active :=
  active_updateTask_ge (s := { s with runs := _ }) fun _ _ => rfl

theorem active_createTaskRun_pos {task : WorkflowTask} (inside : task ∈ s.tasks.entries) :
    0 < (s.createTaskRun task).active := by
  refine active_pos_iff.mpr ⟨_, updateTask_of_mem (s := { s with runs := _ }) _ inside, ?_⟩
  rw [if_pos rfl]
  rfl

theorem active_createTaskRuns_ge (ready : List WorkflowTask) :
    s.active ≤ (s.createTaskRuns ready).2.active := by
  induction ready generalizing s with
  | nil => exact Nat.le_refl _
  | cons task rest ih => exact Nat.le_trans (active_createTaskRun_ge task) ih

theorem status_createTaskRuns (ready : List WorkflowTask) :
    (s.createTaskRuns ready).2.status = s.status := by
  induction ready generalizing s with
  | nil => rfl
  | cons task rest ih => exact ih

theorem active_readyRuns_ge : s.active ≤ (readyRuns spec s).2.active :=
  active_createTaskRuns_ge _

theorem status_readyRuns (s : WorkflowStore) : (readyRuns spec s).2.status = s.status :=
  status_createTaskRuns _

theorem allSucceeded_iff : s.allSucceeded = true ↔
    ∀ task ∈ s.tasks.entries, task.status = .succeeded := by
  simp only [allSucceeded, List.all_eq_true, decide_eq_true_eq]

theorem active_eq_zero_of_allSucceeded (all : s.allSucceeded = true) : s.active = 0 := by
  refine List.countP_eq_zero.mpr fun task inside => ?_
  rw [allSucceeded_iff.mp all task inside]
  decide

end Active

section Movable

theorem succeeded_of_path (safe : Safe spec s) {d x : String}
    (path : ReflTransGen (Precedes spec.tasks) x d) (done : s.Succeeded d) : s.Succeeded x := by
  induction path using ReflTransGen.head_induction_on with
  | refl => exact done
  | head edge _ ih =>
    obtain ⟨task, inside, rfl, succeeded⟩ := ih
    exact safe.dependencies task inside (by rw [succeeded]; rfl) _ edge

theorem Succeeded.status {taskId : String} (done : s.Succeeded taskId) {task : WorkflowTask}
    (inside : task ∈ s.tasks.entries) (same : task.taskId = taskId) :
    task.status = .succeeded := by
  obtain ⟨other, member, rfl, succeeded⟩ := done
  rw [eq_of_taskId inside member same]
  exact succeeded

theorem movable_of_done (safe : Safe spec s) {task : WorkflowTask}
    (inside : task ∈ s.tasks.entries) (unfinished : task.status ≠ .succeeded)
    (kept : task.status.retryable = false)
    (done : ∀ d, Precedes spec.tasks d task.taskId → s.Succeeded d) : Movable spec s := by
  refine ⟨task, inside, unfinished, fun other member path => ?_⟩
  rcases path.cases_tail with same | ⟨d, path, edge⟩
  · rw [eq_of_taskId member inside same.symm]
    exact kept
  · rw [(succeeded_of_path safe path (done d edge)).status member rfl]
    rfl

theorem movable_of_active (safe : Safe spec s) (busy : 0 < s.active) : Movable spec s := by
  obtain ⟨task, inside, active⟩ := active_pos_iff.mp busy
  have started : task.status.started = true := by
    cases status : task.status <;> simp_all [WorkflowTaskStatus.active, WorkflowTaskStatus.started]
  refine movable_of_done safe inside (active_unsucceeded active) ?_
    (safe.dependencies task inside started)
  cases status : task.status <;> simp_all [WorkflowTaskStatus.active, WorkflowTaskStatus.retryable]

theorem isReady_of_startable {task : WorkflowTask} (startable : Startable spec s task)
    (known : task.taskId ∈ spec.taskIds) : s.isReady spec task = true := by
  obtain ⟨given, found⟩ := WorkflowSpec.exists_task_of_mem known
  simp only [isReady, startable.pending, decide_true, Bool.true_and, found, Option.any_some,
    List.all_eq_true, decide_eq_true_eq]
  intro d depends
  obtain ⟨other, member, same, succeeded⟩ :=
    startable.done d ((WorkflowSpec.precedes_iff found d).mpr depends)
  exact List.mem_map.mpr ⟨other, List.mem_filter.mpr ⟨member, by simp [succeeded]⟩, same⟩

theorem exists_startable (safe : Safe spec s) (idle : s.active = 0) (movable : Movable spec s) :
    ∃ task, Startable spec s task := by
  obtain ⟨task, inside, unfinished, kept⟩ := movable
  have open' : ¬ s.Succeeded task.taskId := fun done => unfinished (done.status inside rfl)
  obtain ⟨m, behind, openM, done⟩ :=
    Dag.exists_frontier WorkflowSpec.precedes_wellFounded task.taskId open'
  have listed (x : String) : x ∈ spec.taskIds ↔ ∃ other ∈ s.tasks.entries, other.taskId = x := by
    rw [← safe.ids.mem_iff, List.mem_map]
  have known : m ∈ spec.taskIds := by
    rcases behind.cases_head with same | ⟨next, edge, -⟩
    · rw [same, listed]
      exact ⟨task, inside, rfl⟩
    · exact spec.known m next edge
  obtain ⟨first, member, rfl⟩ := (listed m).mp known
  refine ⟨first, member, ?_, done⟩
  have unsucceeded : first.status ≠ .succeeded := fun succeeded =>
    openM ⟨first, member, rfl, succeeded⟩
  have inactive : ¬ first.status.active = true := List.countP_eq_zero.mp idle first member
  have unretryable := kept first member behind
  cases status : first.status <;> simp_all [WorkflowTaskStatus.active, WorkflowTaskStatus.retryable]

theorem readyTasks_nonempty (safe : Safe spec s) (running : s.status = .running)
    (idle : s.active = 0) {task : WorkflowTask} (startable : Startable spec s task) :
    s.readyTasks spec ≠ [] := by
  have known : task.taskId ∈ spec.taskIds :=
    safe.ids.mem_iff.mp (List.mem_map_of_mem startable.inside)
  have ready : task ∈ s.tasks.entries.filter (s.isReady spec) :=
    List.mem_filter.mpr ⟨startable.inside, isReady_of_startable startable known⟩
  have slots : spec.maxConcurrency - s.active ≠ 0 := by
    have := spec.concurrency_bounds.1
    omega
  simp only [readyTasks, running, ne_eq, not_true_eq_false, if_false, slots]
  intro empty
  rcases List.take_eq_nil_iff.mp empty with none | none
  · exact slots none
  · rw [none] at ready
    cases ready

theorem active_readyRuns_pos_iff (safe : Safe spec s) (running : s.status = .running) :
    0 < (readyRuns spec s).2.active ↔ Movable spec s := by
  constructor
  · intro busy
    by_cases already : 0 < s.active
    · exact movable_of_active safe already
    · cases ready : s.readyTasks spec with
      | nil =>
        rw [readyRuns, ready] at busy
        exact absurd busy already
      | cons task rest =>
        have startable : Startable spec s task :=
          startable_of_readyTasks (by rw [ready]; exact List.mem_cons_self)
        refine movable_of_done safe startable.inside ?_ ?_ startable.done
        · rw [startable.pending]
          decide
        · rw [startable.pending]
          rfl
  · intro movable
    by_cases idle : s.active = 0
    · obtain ⟨task, startable⟩ := exists_startable safe idle movable
      have nonempty := readyTasks_nonempty safe running idle startable
      cases ready : s.readyTasks spec with
      | nil => exact absurd ready nonempty
      | cons first rest =>
        have startable : Startable spec s first :=
          startable_of_readyTasks (by rw [ready]; exact List.mem_cons_self)
        rw [readyRuns, ready]
        exact Nat.lt_of_lt_of_le (active_createTaskRun_pos startable.inside)
          (active_createTaskRuns_ge rest)
    · exact Nat.lt_of_lt_of_le (Nat.pos_of_ne_zero idle) active_readyRuns_ge

end Movable

section Operations

def Untouched (s : WorkflowStore) : Prop :=
  s.status = .awaitingApproval → ∀ task ∈ s.tasks.entries, task.status = .pending

theorem live_of_not_running (stopped : s.status ≠ .running) : s.Live :=
  fun running => absurd running stopped

theorem live_start_iff (safe : Safe spec s) :
    (readyRuns spec (s.setStatus .running .running)).2.Live ↔ Movable spec s := by
  have iff := active_readyRuns_pos_iff (sound_setStatus .running .running safe).1 rfl
  constructor
  · exact fun live => iff.mp (live (status_readyRuns _))
  · exact fun movable _ => iff.mpr movable

theorem tasks_nonempty (safe : Safe spec s) : s.tasks.entries ≠ [] := by
  obtain ⟨given, member⟩ := spec.exists_task
  have known : given.id ∈ spec.taskIds := List.mem_map_of_mem member
  obtain ⟨task, inside, -⟩ := List.mem_map.mp (safe.ids.mem_iff.mpr known)
  exact List.ne_nil_of_mem inside

theorem movable_of_pending (safe : Safe spec s)
    (pending : ∀ task ∈ s.tasks.entries, task.status = .pending) : Movable spec s := by
  obtain ⟨task, inside⟩ := List.exists_mem_of_ne_nil _ (tasks_nonempty safe)
  refine ⟨task, inside, by rw [pending task inside]; decide, fun other listed _ => ?_⟩
  rw [pending other listed]
  rfl

theorem live_approve (safe : Safe spec s) (untouched : s.Untouched) (live : s.Live) :
    (approve spec s).2.Live := by
  rw [approve_state]
  split_ifs with awaiting
  · exact (live_start_iff safe).mpr (movable_of_pending safe (untouched awaiting))
  · exact live

theorem live_readyRuns (live : s.Live) : (readyRuns spec s).2.Live := by
  intro running
  rw [status_readyRuns] at running
  exact Nat.lt_of_lt_of_le (live running) active_readyRuns_ge

theorem live_markRunning (live : s.Live) (runId : Nat) : (s.markRunning runId).Live := by
  unfold markRunning
  split
  · exact live
  · split
    · exact live
    · exact fun running => Nat.lt_of_lt_of_le (live running) (active_updateTask_ge fun _ _ => rfl)

theorem live_pause (live : s.Live) : (pause s).2.Live := by
  rw [pause_state]
  split
  · exact live_of_not_running (by simp [setStatus])
  · exact live

theorem live_cancel (live : s.Live) : (cancel s).2.Live := by
  rw [cancel_state]
  split
  · exact live
  · exact live_of_not_running (by simp [cancelParent, setStatus])

theorem live_retryTask_iff (safe : Safe spec s) (live : s.Live) (taskId : String) :
    (retryTask spec taskId s).2.Live ↔ Advances spec s (.retryTask taskId) := by
  rw [retryTask_state]
  cases present : s.tasks.get? taskId with
  | none =>
    refine iff_of_true live fun task found => ?_
    rw [present] at found
    cases found
  | some task =>
    simp only
    split_ifs with retryable
    · obtain ⟨inside, rfl⟩ := Table.get?_eq_some.mp present
      rw [live_start_iff (sound_resetTask inside retryable safe).1]
      exact ⟨fun movable _ _ _ => movable, fun advances => advances task present retryable⟩
    · refine iff_of_true live fun other found given => absurd given ?_
      rw [← Option.some.inj (present.symm.trans found)]
      exact retryable

theorem live_iff_of_allSucceeded (all : s.allSucceeded = true) : s.Live ↔ s.status ≠ .running := by
  refine ⟨fun live running => ?_, live_of_not_running⟩
  have busy := live running
  rw [active_eq_zero_of_allSucceeded all] at busy
  exact Nat.lt_irrefl 0 busy

theorem live_resume_iff (safe : Safe spec s) (live : s.Live) (uncaught : Option String) :
    (resume spec uncaught s).2.Live ↔ Advances spec s (.resume uncaught) := by
  have advances_iff : Advances spec s (.resume uncaught) ↔
      (s.status = .paused → Continues spec s uncaught) := Iff.rfl
  rw [resume_state, advances_iff, Continues]
  by_cases paused : s.status = .paused
  · rw [if_pos paused]
    by_cases all : s.allSucceeded = true
    · rw [if_pos ⟨tasks_nonempty safe, all⟩, if_pos all]
      split_ifs with caught
      · exact iff_of_true (live_of_not_running (by simp [setStatus])) fun _ => caught
      · refine iff_of_false (fun live => ?_) fun advances => caught (advances paused)
        exact (live_iff_of_allSucceeded (s := s.setStatus .running .running) all).mp live rfl
    · rw [if_neg fun both => all both.2, if_neg all, live_start_iff safe]
      exact ⟨fun movable _ => movable, fun advances => advances paused⟩
  · rw [if_neg paused]
    exact iff_of_true live fun given => absurd given paused

theorem live_completeChild_iff (safe : Safe spec s) (live : s.Live) (runId : Nat)
    (outcome : Outcome) (uncaught : Option String) :
    (completeChild spec runId outcome uncaught s).2.Live ↔
      Advances spec s (.completeChild runId outcome uncaught) := by
  rw [completeChild_state]
  cases found : s.taskForChildRun runId with
  | none =>
    refine iff_of_true live fun task _ present => ?_
    rw [found] at present
    cases present
  | some task =>
    simp only
    -- the condition is about this task, and only while the workflow runs
    have advances_iff : Advances spec s (.completeChild runId outcome uncaught) ↔
        (s.status = .running → task.status.active = true → outcome.status = .succeeded →
          Continues spec (s.succeedTask task.taskId outcome) uncaught) := by
      constructor
      · exact fun advances running => advances task running found
      · intro advances other running present
        rw [found] at present
        cases present
        exact advances running
    rw [advances_iff, Continues]
    by_cases ended : task.status = .succeeded ∨ task.status = .failed ∨ task.status = .cancelled
    · rw [if_pos ended]
      refine iff_of_true live fun _ active => ?_
      rcases ended with ended | ended | ended <;> rw [ended] at active <;> cases active
    · have active := active_of_open safe found ended
      have finished := (sound_succeedTask found ended outcome safe).1
      rw [if_neg ended]
      by_cases success : outcome.status = .succeeded
      · rw [if_pos success]
        by_cases running : s.status = .running
        · have unpaused : s.status ≠ .paused := by rw [running]; decide
          by_cases all : (s.succeedTask task.taskId outcome).allSucceeded = true
          · rw [if_pos all]
            by_cases caught : uncaught = none
            · rw [if_neg (by simp [unpaused, caught])]
              refine iff_of_true (live_of_not_running (by simp [setStatus])) fun _ _ _ => ?_
              rw [if_pos all]
              exact caught
            · rw [if_pos (Or.inr caught), live_iff_of_allSucceeded all]
              refine iff_of_false (fun stopped => stopped running) fun advances => ?_
              have none := advances running active success
              rw [if_pos all] at none
              exact caught none
          · have stillRunning : (s.succeedTask task.taskId outcome).status = .running := running
            have busy := active_readyRuns_pos_iff finished stillRunning
            rw [if_neg all]
            constructor
            · intro live _ _ _
              rw [if_neg all]
              exact busy.mp (live ((status_readyRuns _).trans running))
            · intro advances _
              have movable := advances running active success
              rw [if_neg all] at movable
              exact busy.mpr movable
        · refine iff_of_true (live_of_not_running ?_) fun given => absurd given running
          split_ifs
          · exact running
          · simp [setStatus]
          · rw [status_readyRuns]
            exact running
      · rw [if_neg success]
        refine iff_of_true (live_of_not_running ?_) fun _ _ given => absurd given success
        split_ifs with stopped
        · rcases stopped with stopped | stopped <;> simp [endTask, updateTask, stopped]
        · simp [failWorkflow]

theorem live_step_iff (safe : Safe spec s) (untouched : s.Untouched) (live : s.Live)
    (label : Label) : (perform spec label s).2.Live ↔ Advances spec s label := by
  cases label with
  | approve => exact iff_of_true (live_approve safe untouched live) trivial
  | readyRuns => exact iff_of_true (live_readyRuns live) trivial
  | markRunning runId => exact iff_of_true (live_markRunning live runId) trivial
  | completeChild runId outcome uncaught =>
    exact live_completeChild_iff safe live runId outcome uncaught
  | retryTask taskId => exact live_retryTask_iff safe live taskId
  | pause => exact iff_of_true (live_pause live) trivial
  | resume uncaught => exact live_resume_iff safe live uncaught
  | cancel => exact iff_of_true (live_cancel live) trivial
  | runStatus runId status => exact iff_of_true live trivial

theorem untouched_of_ne (touched : s.status ≠ .awaitingApproval) : s.Untouched :=
  fun awaiting => absurd awaiting touched

theorem touched_readyRuns (touched : s.status ≠ .awaitingApproval) :
    (readyRuns spec s).2.Untouched := by
  refine untouched_of_ne ?_
  rw [status_readyRuns]
  exact touched

theorem touched_step (touched : s.status ≠ .awaitingApproval) (label : Label) :
    (perform spec label s).2.Untouched := by
  have same : s.Untouched := untouched_of_ne touched
  cases label with
  | approve =>
    change (approve spec s).2.Untouched
    rw [approve_state, if_neg touched]
    exact same
  | readyRuns => exact touched_readyRuns touched
  | markRunning runId =>
    change (s.markRunning runId).Untouched
    unfold markRunning
    split
    · exact same
    · split
      · exact same
      · exact untouched_of_ne touched
  | completeChild runId outcome uncaught =>
    change (completeChild spec runId outcome uncaught s).2.Untouched
    rw [completeChild_state]
    split
    · exact same
    · split_ifs
      · exact same
      · exact untouched_of_ne touched
      · exact untouched_of_ne (by simp [setStatus])
      · exact touched_readyRuns touched
      · exact untouched_of_ne touched
      · exact untouched_of_ne (by simp [failWorkflow])
  | retryTask taskId =>
    change (retryTask spec taskId s).2.Untouched
    rw [retryTask_state]
    split
    · exact same
    · split
      · exact touched_readyRuns (by simp [setStatus])
      · exact same
  | pause =>
    change (pause s).2.Untouched
    rw [pause_state]
    split
    · exact untouched_of_ne (by simp [setStatus])
    · exact same
  | resume uncaught =>
    change (resume spec uncaught s).2.Untouched
    rw [resume_state]
    split_ifs
    · exact untouched_of_ne (by simp [setStatus])
    · exact untouched_of_ne (by simp [setStatus])
    · exact touched_readyRuns (by simp [setStatus])
    · exact same
  | cancel =>
    change (cancel s).2.Untouched
    rw [cancel_state]
    split
    · exact same
    · exact untouched_of_ne (by simp [cancelParent, setStatus])
  | runStatus runId status => exact untouched_of_ne touched

theorem untouched_step (safe : Safe spec s) (untouched : s.Untouched) (label : Label) :
    (perform spec label s).2.Untouched := by
  by_cases awaiting : s.status = .awaitingApproval
  · -- while the approval is awaited no task has a child run
    have childless (runId : Nat) : s.taskForChildRun runId = none := by
      cases found : s.taskForChildRun runId with
      | none => rfl
      | some task =>
        obtain ⟨inside, child⟩ := mem_of_taskForChildRun found
        exact absurd (untouched awaiting task inside)
          (safe.linked task inside (by rw [child]; simp)).1
    cases label with
    | approve =>
      change (approve spec s).2.Untouched
      rw [approve_state, if_pos awaiting]
      exact touched_readyRuns (by simp [setStatus])
    | readyRuns =>
      have none : s.readyTasks spec = [] := by simp [readyTasks, awaiting]
      change (readyRuns spec s).2.Untouched
      rw [readyRuns, none]
      exact untouched
    | markRunning runId =>
      change (s.markRunning runId).Untouched
      rw [markRunning, childless runId]
      exact untouched
    | completeChild runId outcome uncaught =>
      change (completeChild spec runId outcome uncaught s).2.Untouched
      rw [completeChild_state, childless runId]
      exact untouched
    | retryTask taskId =>
      change (retryTask spec taskId s).2.Untouched
      rw [retryTask_state]
      split
      · exact untouched
      · next task present =>
        have pending := untouched awaiting task (Table.mem_of_get? present)
        rw [if_neg (by rw [pending]; decide)]
        exact untouched
    | pause =>
      change (pause s).2.Untouched
      rw [pause_state, if_neg (by rw [awaiting]; decide)]
      exact untouched
    | resume uncaught =>
      change (resume spec uncaught s).2.Untouched
      rw [resume_state, if_neg (by rw [awaiting]; decide)]
      exact untouched
    | cancel =>
      change (cancel s).2.Untouched
      rw [cancel_state, if_neg (by rw [awaiting]; decide)]
      exact untouched_of_ne (by simp [cancelParent, setStatus])
    | runStatus runId status => exact untouched
  · exact touched_step awaiting label

end Operations

/-- The workflow is live after every operation of a run exactly when its operations advance. -/
theorem live_run_iff (order : TaskOrder spec) (labels : List Label) :
    Machine.Along (step spec) (fun _ _ s' => s'.Live) (created order) labels ↔
      Machine.Conforms (step spec) (Advances spec) (created order) labels := by
  refine Machine.along_congr_of_invariant
    (I := fun s => Safe spec s ∧ s.Untouched ∧ s.Live) ?_ ?_ ⟨safe_created order, ?_, ?_⟩
  · rintro s label s' ⟨safe, untouched, live⟩ moved
    obtain rfl := Option.some.inj moved
    exact live_step_iff safe untouched live label
  · rintro s label s' ⟨safe, untouched, -⟩ moved live
    obtain rfl := Option.some.inj moved
    exact ⟨(sound_step s label safe).1, untouched_step safe untouched label, live⟩
  · intro _ task member
    obtain ⟨id, -, rfl⟩ := List.mem_map.mp member
    rfl
  · exact live_of_not_running (by simp [created])

def pausedFailure : List Label := [.approve, .pause, .completeChild 0 ⟨.failed, "", none⟩ none]

/-- After the resumption the workflow runs with a failed task and one that waits for it. -/
theorem pausedFailure_wedges : ¬ ∀ labels : List Label,
    Machine.Along (step twoSteps) (fun _ _ s' => s'.Live) (created listed) labels := by
  intro live
  have last := Machine.Along.at_prefix pausedFailure (live (pausedFailure ++ [.resume none]))
    (Machine.run_final _ _ _ rfl) rfl
  exact absurd (last rfl) (by decide)

end WorkflowStore

end Taroai.Workflow
