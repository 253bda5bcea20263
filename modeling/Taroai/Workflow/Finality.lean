import Taroai.Workflow.Approval
import Taroai.Workflow.Progress

/-! The status of a workflow and of its parent run, and what is past. The two statuses agree after
every move. A workflow that is neither running nor paused has no active task, so apart from a
resumption after approval only `retry_task` moves a cancelled one, and nothing a succeeded one. -/

namespace Taroai.Workflow

def WorkflowStatus.runStatus : WorkflowStatus → RunStatus
  | awaitingApproval => .awaitingApproval
  | running => .running
  | paused => .waitingForUser
  | succeeded => .succeeded
  | failed => .failed
  | cancelled => .cancelled

namespace WorkflowStore

variable {spec : WorkflowSpec} {s s' : WorkflowStore}

/-- The invariant: the statuses agree, and tasks are active only while they may be. -/
structure Governed (spec : WorkflowSpec) (s : WorkflowStore) : Prop where
  safe : Safe spec s
  agrees : s.parentStatus = s.status.runStatus
  idle : s.status ≠ .running → s.status ≠ .paused → s.active = 0
  done : s.status = .succeeded → s.allSucceeded = true

/-- Nothing happens to the workflow and its tasks; a worker may report on a child run. -/
structure Unmoved (s s' : WorkflowStore) : Prop where
  status : s'.status = s.status
  parentStatus : s'.parentStatus = s.parentStatus
  tasks : s'.tasks = s.tasks
  runs : s'.runs.length = s.runs.length

theorem Unmoved.refl (s : WorkflowStore) : Unmoved s s := ⟨rfl, rfl, rfl, rfl⟩

section Writes

theorem readyRuns_of_stopped (stopped : s.status ≠ .running) : (readyRuns spec s).2 = s := by
  have none : s.readyTasks spec = [] := by simp [readyTasks, stopped]
  rw [readyRuns, none]
  rfl

theorem statuses_createTaskRuns (ready : List WorkflowTask) :
    (s.createTaskRuns ready).2.status = s.status ∧
      (s.createTaskRuns ready).2.parentStatus = s.parentStatus := by
  induction ready generalizing s with
  | nil => exact ⟨rfl, rfl⟩
  | cons task rest ih => exact ih

structure Framed (s s' : WorkflowStore) : Prop where
  status : s'.status = s.status
  parentStatus : s'.parentStatus = s.parentStatus
  runs : s'.runs.length = s.runs.length

theorem framed_cancelChild (task : WorkflowTask) : Framed s (s.cancelChild task) := by
  unfold cancelChild
  split
  · exact ⟨rfl, rfl, rfl⟩
  · split
    · exact ⟨rfl, rfl, List.length_modify _ _ _⟩
    · exact ⟨rfl, rfl, rfl⟩

theorem framed_cancelTasks (s : WorkflowStore) :
    Framed s (s.tasks.entries.foldl cancelTask s) := by
  refine foldl_listed (fun _ => ⟨rfl, rfl, rfl⟩) (fun _ _ _ first next =>
    ⟨next.status.trans first.status, next.parentStatus.trans first.parentStatus,
      next.runs.trans first.runs⟩) ?_ mem_cancelTask _ s.tasks.nodup fun task member => member
  intro s task inside
  have framed := framed_cancelChild (s := s) task
  unfold cancelTask
  split
  · exact ⟨framed.status, framed.parentStatus, framed.runs⟩
  · exact framed

theorem active_foldl (body : WorkflowStore → WorkflowTask → WorkflowStore)
    {listed : List WorkflowTask} (inside : ∀ task ∈ listed, task ∈ s.tasks.entries)
    (distinct : (listed.map WorkflowTask.taskId).Nodup)
    (each : ∀ s : WorkflowStore, ∀ task ∈ listed, task ∈ s.tasks.entries →
      ∀ other ∈ (body s task).tasks.entries, other.status.active = true →
        other ∈ s.tasks.entries ∧ other ≠ task)
    (frame : ∀ s task other, other ∈ s.tasks.entries → other.taskId ≠ task.taskId →
      other ∈ (body s task).tasks.entries) :
    ∀ other ∈ (listed.foldl body s).tasks.entries, other.status.active = true →
      other ∈ s.tasks.entries ∧ other ∉ listed := by
  induction listed generalizing s with
  | nil => exact fun other member _ => ⟨member, List.not_mem_nil⟩
  | cons task rest ih =>
    intro other member active
    rw [List.map_cons, List.nodup_cons] at distinct
    have later (task' : WorkflowTask) (here : task' ∈ rest) :
        task' ∈ (body s task).tasks.entries := by
      refine frame s task task' (inside task' (List.mem_cons_of_mem task here)) fun same => ?_
      exact distinct.1 (List.mem_map.mpr ⟨task', here, same⟩)
    obtain ⟨kept, absent⟩ := ih later distinct.2
      (fun s task' here => each s task' (List.mem_cons_of_mem task here)) other member active
    obtain ⟨kept, differs⟩ :=
      each s task List.mem_cons_self (inside task List.mem_cons_self) other kept active
    refine ⟨kept, fun either => ?_⟩
    rcases List.mem_cons.mp either with same | here
    · exact differs same
    · exact absent here

theorem active_cancelled {task other : WorkflowTask}
    (member : other ∈ ((s.cancelChild task).updateTask task.taskId fun stored =>
      { stored with status := .cancelled }).tasks.entries)
    (active : other.status.active = true) : other ∈ s.tasks.entries ∧ other ≠ task := by
  obtain ⟨old, kept, -, ⟨rfl, differs⟩ | ⟨rfl, -⟩⟩ := mem_updateTask member
  · rw [cancelChild_tasks] at kept
    exact ⟨kept, fun same => differs (congrArg WorkflowTask.taskId same)⟩
  · cases active

theorem active_cancelTasks : (s.tasks.entries.foldl cancelTask s).active = 0 := by
  refine List.countP_eq_zero.mpr fun other member active => ?_
  have left := active_foldl cancelTask (fun _ inside => inside) s.tasks.nodup
    ?_ mem_cancelTask other member active
  · exact left.2 left.1
  · intro s task _ _ other member active
    unfold cancelTask at member
    split_ifs at member with cancellable
    · exact active_cancelled member active
    · rw [cancelChild_tasks] at member
      refine ⟨member, fun same => cancellable ?_⟩
      rw [← same]
      cases status : other.status <;> simp_all [WorkflowTaskStatus.active, WorkflowTaskStatus.cancellable]

theorem active_failWorkflow (childed : ∀ task ∈ s.tasks.entries, task.status.active = true →
    task.childRunId ≠ none) : s.failWorkflow.active = 0 := by
  refine List.countP_eq_zero.mpr fun other member active => ?_
  have left := active_foldl cancelSibling (fun _ inside => inside) s.tasks.nodup
    ?_ mem_cancelSibling other member active
  · exact left.2 left.1
  · intro s' task listed _ other member active
    unfold cancelSibling at member
    split_ifs at member with cancelled
    · exact active_cancelled member active
    · refine ⟨member, fun same => cancelled ?_⟩
      rw [← same] at listed ⊢
      exact ⟨childed other listed active, active⟩

end Writes

section Governed

theorem Governed.moving (safe : Safe spec s) (agrees : s.parentStatus = s.status.runStatus)
    (moving : s.status = .running ∨ s.status = .paused) : Governed spec s where
  safe := safe
  agrees := agrees
  idle := fun stopped unpaused => (moving.elim stopped unpaused).elim
  done := fun done => by rcases moving with moving | moving <;> rw [done] at moving <;> cases moving

theorem governed_readyRuns (governed : Governed spec s) : Governed spec (readyRuns spec s).2 := by
  by_cases running : s.status = .running
  · obtain ⟨status, parent⟩ := statuses_createTaskRuns (s := s) (s.readyTasks spec)
    refine .moving (sound_readyRuns s governed.safe).1 ?_ (Or.inl (status.trans running))
    change (s.createTaskRuns (s.readyTasks spec)).2.parentStatus = _
    rw [parent, governed.agrees]
    exact congrArg WorkflowStatus.runStatus status.symm
  · rw [readyRuns_of_stopped running]
    exact governed

theorem governed_start (safe : Safe spec s) :
    Governed spec (readyRuns spec (s.setStatus .running .running)).2 :=
  governed_readyRuns (.moving (sound_setStatus .running .running safe).1 rfl (Or.inl rfl))

theorem governed_succeeded (safe : Safe spec s) (all : s.allSucceeded = true) :
    Governed spec (s.setStatus .succeeded .succeeded) where
  safe := (sound_setStatus _ _ safe).1
  agrees := rfl
  idle := fun _ _ => active_eq_zero_of_allSucceeded all
  done := fun _ => all

theorem active_pos_of_mem {task : WorkflowTask} (inside : task ∈ s.tasks.entries)
    (active : task.status.active = true) : s.active ≠ 0 := by
  have := active_pos_iff.mpr ⟨task, inside, active⟩
  omega

theorem markRunning_of_idle (idle : s.active = 0) (runId : Nat) : s.markRunning runId = s := by
  unfold markRunning
  split
  · rfl
  · next task found =>
    refine if_pos fun queued => active_pos_of_mem (mem_of_taskForChildRun found).1 ?_ idle
    rw [queued]
    rfl

theorem governed_markRunning (governed : Governed spec s) (runId : Nat) :
    Governed spec (s.markRunning runId) := by
  by_cases idle : s.active = 0
  · rw [markRunning_of_idle idle]
    exact governed
  · have moving : s.status = .running ∨ s.status = .paused := by
      by_contra stopped
      exact idle (governed.idle (fun h => stopped (Or.inl h)) fun h => stopped (Or.inr h))
    have same : (s.markRunning runId).status = s.status ∧
        (s.markRunning runId).parentStatus = s.parentStatus := by
      unfold markRunning
      split
      · exact ⟨rfl, rfl⟩
      · split <;> exact ⟨rfl, rfl⟩
    refine .moving (sound_markRunning runId governed.safe).1 ?_ (same.1.symm ▸ moving)
    rw [same.1, same.2, governed.agrees]

theorem completeChild_of_idle (governed : Governed spec s) (idle : s.active = 0) (runId : Nat)
    (outcome : Outcome) (uncaught : Option String) :
    (completeChild spec runId outcome uncaught s).2 = s := by
  rw [completeChild_of_ended]
  intro task found
  by_contra unfinished
  have active := active_of_open governed.safe found fun past => unfinished (ended_iff.mpr past)
  exact active_pos_of_mem (mem_of_taskForChildRun found).1 active idle

theorem governed_completeChild (governed : Governed spec s) (runId : Nat) (outcome : Outcome)
    (uncaught : Option String) : Governed spec (completeChild spec runId outcome uncaught s).2 := by
  by_cases idle : s.active = 0
  · rw [completeChild_of_idle governed idle]
    exact governed
  · have moving : s.status = .running ∨ s.status = .paused := by
      by_contra stopped
      exact idle (governed.idle (fun h => stopped (Or.inl h)) fun h => stopped (Or.inr h))
    rw [completeChild_state]
    cases found : s.taskForChildRun runId with
    | none => exact governed
    | some task =>
      simp only
      by_cases ended : task.status = .succeeded ∨ task.status = .failed ∨ task.status = .cancelled
      · rw [if_pos ended]
        exact governed
      · have succeeded := (sound_succeedTask found ended outcome governed.safe).1
        have given := (sound_endTask found ended outcome governed.safe).1
        rw [if_neg ended]
        split_ifs with success all unsynthesized stopped
        · exact .moving succeeded governed.agrees moving
        · exact governed_succeeded succeeded all
        · exact governed_readyRuns (.moving succeeded governed.agrees moving)
        · exact .moving given governed.agrees moving
        · exact ⟨(sound_failWorkflow given).1, rfl, fun _ _ => active_failWorkflow given.childed,
            fun done => by cases done⟩

theorem governed_retryTask (governed : Governed spec s) (taskId : String) :
    Governed spec (retryTask spec taskId s).2 := by
  rw [retryTask_state]
  split
  · exact governed
  · next task present =>
    obtain ⟨inside, rfl⟩ := Table.get?_eq_some.mp present
    split
    · next retryable => exact governed_start (sound_resetTask inside retryable governed.safe).1
    · exact governed

theorem governed_pause (governed : Governed spec s) : Governed spec (pause s).2 := by
  rw [pause_state]
  split
  · exact .moving (sound_setStatus _ _ governed.safe).1 rfl (Or.inr rfl)
  · exact governed

theorem governed_resume (governed : Governed spec s) (uncaught : Option String) :
    Governed spec (resume spec uncaught s).2 := by
  rw [resume_state]
  split_ifs with paused past caught
  · exact governed_succeeded governed.safe past.2
  · exact .moving (sound_setStatus _ _ governed.safe).1 rfl (Or.inl rfl)
  · exact governed_start governed.safe
  · exact governed

theorem governed_cancel (governed : Governed spec s) : Governed spec (cancel s).2 := by
  have safe := (sound_cancel governed.safe).1
  rw [cancel_state] at safe ⊢
  split_ifs at safe ⊢ with past
  · exact governed
  · refine ⟨safe, ?_, fun _ _ => active_cancelTasks, fun done => by cases done⟩
    -- the parent run of an open workflow is not terminal, so it is cancelled with it
    have parent : (s.tasks.entries.foldl cancelTask s).parentStatus.terminal = false := by
      rw [(framed_cancelTasks s).parentStatus, governed.agrees]
      cases status : s.status <;> simp_all [WorkflowStatus.runStatus, RunStatus.terminal]
    simp [cancelParent, setStatus, parent, WorkflowStatus.runStatus]

theorem governed_step (governed : Governed spec s) (label : Label) :
    Governed spec (perform spec label s).2 := by
  cases label with
  | approve =>
    change Governed spec (approve spec s).2
    rw [approve_state]
    split
    · exact governed_start governed.safe
    · exact governed
  | readyRuns => exact governed_readyRuns governed
  | markRunning runId => exact governed_markRunning governed runId
  | completeChild runId outcome uncaught => exact governed_completeChild governed runId outcome uncaught
  | retryTask taskId => exact governed_retryTask governed taskId
  | pause => exact governed_pause governed
  | resume uncaught => exact governed_resume governed uncaught
  | cancel => exact governed_cancel governed
  | runStatus runId status =>
    have safe := (sound_step s (.runStatus runId status) governed.safe).1
    exact ⟨safe, governed.agrees, governed.idle, governed.done⟩

theorem governed_created (order : TaskOrder spec) : Governed spec (created order) where
  safe := safe_created order
  agrees := rfl
  idle := fun _ _ => by
    refine List.countP_eq_zero.mpr fun task member => ?_
    obtain ⟨id, -, rfl⟩ := List.mem_map.mp member
    exact Bool.false_ne_true
  done := fun done => by cases done

end Governed

section Laws

theorem unmoved_step (governed : Governed spec s)
    (past : s.status = .succeeded ∨ s.status = .cancelled) (label : Label)
    (kept : s.status = .cancelled → ∀ taskId, label ≠ .retryTask taskId) :
    Unmoved s (perform spec label s).2 := by
  have stopped : s.status ≠ .running := by rcases past with past | past <;> rw [past] <;> decide
  have unpaused : s.status ≠ .paused := by rcases past with past | past <;> rw [past] <;> decide
  have approved : s.status ≠ .awaitingApproval := by
    rcases past with past | past <;> rw [past] <;> decide
  have idle := governed.idle stopped unpaused
  cases label with
  | approve =>
    change Unmoved s (approve spec s).2
    rw [approve_state, if_neg approved]
    exact .refl s
  | readyRuns =>
    change Unmoved s (readyRuns spec s).2
    rw [readyRuns_of_stopped stopped]
    exact .refl s
  | markRunning runId =>
    change Unmoved s (s.markRunning runId)
    rw [markRunning_of_idle idle]
    exact .refl s
  | completeChild runId outcome uncaught =>
    change Unmoved s (completeChild spec runId outcome uncaught s).2
    rw [completeChild_of_idle governed idle]
    exact .refl s
  | retryTask taskId =>
    change Unmoved s (retryTask spec taskId s).2
    rw [retryTask_state]
    rcases past with succeeded | cancelled
    · split
      · exact .refl s
      · next task present =>
        have done := allSucceeded_iff.mp (governed.done succeeded) task (Table.mem_of_get? present)
        rw [if_neg (by rw [done]; decide)]
        exact .refl s
    · exact absurd rfl (kept cancelled taskId)
  | pause =>
    change Unmoved s (pause s).2
    rw [pause_state, if_neg stopped]
    exact .refl s
  | resume uncaught =>
    change Unmoved s (resume spec uncaught s).2
    rw [resume_state, if_neg unpaused]
    exact .refl s
  | cancel =>
    change Unmoved s (cancel s).2
    rw [cancel_state, if_pos (past.elim (fun h => Or.inr (Or.inl h)) Or.inl)]
    exact .refl s
  | runStatus runId status => exact ⟨rfl, rfl, rfl, List.length_modify _ _ _⟩

theorem starts_none_of_paused (paused : s.status = .paused) (label : Label)
    (other : (∀ uncaught, label ≠ .resume uncaught) ∧ ∀ taskId, label ≠ .retryTask taskId) :
    (perform spec label s).2.runs.length = s.runs.length := by
  have stopped : s.status ≠ .running := by rw [paused]; decide
  cases label with
  | approve =>
    change (approve spec s).2.runs.length = _
    rw [approve_state, if_neg (by rw [paused]; decide)]
  | readyRuns =>
    change (readyRuns spec s).2.runs.length = _
    rw [readyRuns_of_stopped stopped]
  | markRunning runId =>
    change (s.markRunning runId).runs.length = _
    unfold markRunning
    split
    · rfl
    · split <;> rfl
  | completeChild runId outcome uncaught =>
    change (completeChild spec runId outcome uncaught s).2.runs.length = _
    rw [completeChild_state]
    split
    · rfl
    · next task found =>
      split_ifs with ended success all unsynthesized stopped'
      · rfl
      · rfl
      · rfl
      · rw [readyRuns_of_stopped (s := s.succeedTask task.taskId outcome) stopped]
        rfl
      · rfl
      · exact absurd (Or.inr paused) stopped'
  | retryTask taskId => exact absurd rfl (other.2 taskId)
  | pause =>
    change (pause s).2.runs.length = _
    rw [pause_state, if_neg stopped]
  | resume uncaught => exact absurd rfl (other.1 uncaught)
  | cancel =>
    change (cancel s).2.runs.length = _
    rw [cancel_state]
    split
    · rfl
    · exact (framed_cancelTasks s).runs
  | runStatus runId status => exact List.length_modify _ _ _

end Laws

end WorkflowStore

namespace PlanStore

open WorkflowStore (Unmoved Governed twoSteps listed)

variable {spec : WorkflowSpec} {s s' : PlanStore}

/-- The law of a move. A workflow that is past stays as it is, unless a cancelled one is reopened
by the retry of a task; a paused one starts no task until it is resumed, or a task retried; and the
statuses agree. What a resumption after approval does to a workflow that is over is left open. -/
structure Lawful (s : PlanStore) (move : Move) (s' : PlanStore) : Prop where
  final : s.workflow.status = .succeeded ∨ s.workflow.status = .cancelled →
    (s.workflow.status = .cancelled → ∀ taskId, move ≠ .operation (.retryTask taskId)) →
    move ≠ .resumeAfterApproval → Unmoved s.workflow s'.workflow
  paused : s.workflow.status = .paused →
    (∀ uncaught, move ≠ .operation (.resume uncaught)) →
    (∀ taskId, move ≠ .operation (.retryTask taskId)) →
    s'.workflow.runs.length = s.workflow.runs.length
  agrees : s'.workflow.parentStatus = s'.workflow.status.runStatus

structure Ruled (spec : WorkflowSpec) (s : PlanStore) : Prop where
  governed : Governed spec s.workflow
  untouched : s.workflow.Untouched
  pending : s.approval = .pending → s.workflow.status = .awaitingApproval

theorem awaiting_step {s : WorkflowStore} (governed : Governed spec s) (untouched : s.Untouched)
    (awaiting : s.status = .awaitingApproval) {label : WorkflowStore.Label}
    (other : label ≠ .approve ∧ label ≠ .cancel) :
    (WorkflowStore.perform spec label s).2.status = .awaitingApproval := by
  have stopped : s.status ≠ .running := by rw [awaiting]; decide
  have unpaused : s.status ≠ .paused := by rw [awaiting]; decide
  have idle := governed.idle stopped unpaused
  cases label with
  | approve => exact absurd rfl other.1
  | readyRuns =>
    change (WorkflowStore.readyRuns spec s).2.status = _
    rw [WorkflowStore.readyRuns_of_stopped stopped, awaiting]
  | markRunning runId =>
    change (s.markRunning runId).status = _
    rw [WorkflowStore.markRunning_of_idle idle, awaiting]
  | completeChild runId outcome uncaught =>
    change (WorkflowStore.completeChild spec runId outcome uncaught s).2.status = _
    rw [WorkflowStore.completeChild_of_idle governed idle, awaiting]
  | retryTask taskId =>
    change (WorkflowStore.retryTask spec taskId s).2.status = _
    rw [WorkflowStore.retryTask_state]
    split
    · exact awaiting
    · next task present =>
      have pending := untouched awaiting task (Table.mem_of_get? present)
      rw [if_neg (by rw [pending]; decide), awaiting]
  | pause =>
    change (WorkflowStore.pause s).2.status = _
    rw [WorkflowStore.pause_state, if_neg stopped, awaiting]
  | resume uncaught =>
    change (WorkflowStore.resume spec uncaught s).2.status = _
    rw [WorkflowStore.resume_state, if_neg unpaused, awaiting]
  | cancel => exact absurd rfl other.2
  | runStatus runId status => exact awaiting

theorem ruled_step (ruled : Ruled spec s) {move : Move} (moved : step spec s move = some s') :
    Ruled spec s' := by
  obtain ⟨governed, untouched, pending⟩ := ruled
  cases move with
  | resumeAfterApproval =>
    obtain rfl := Option.some.inj moved
    rw [resumeAfterApproval_state]
    split
    · refine ⟨.moving ?_ rfl (Or.inl rfl), WorkflowStore.untouched_of_ne (by simp [WorkflowStore.setStatus]),
        fun same => by cases same⟩
      exact (WorkflowStore.sound_setStatus _ _ governed.safe).1
    · exact ⟨governed, untouched, pending⟩
  | rejectApproval =>
    obtain rfl := Option.some.inj moved
    rw [rejectApproval_state]
    split
    · next waiting =>
      have awaiting := pending waiting
      refine ⟨⟨(WorkflowStore.sound_setStatus _ _ governed.safe).1, rfl, fun _ _ => ?_,
        fun done => by cases done⟩, WorkflowStore.untouched_of_ne (by simp [WorkflowStore.setStatus]),
        fun same => by cases same⟩
      exact governed.idle (by rw [awaiting]; decide) (by rw [awaiting]; decide)
    · exact ⟨governed, untouched, pending⟩
  | operation label =>
    obtain ⟨approved, workflow, approval⟩ := step_operation moved
    refine ⟨?_, ?_, fun waiting => ?_⟩
    · rw [workflow]
      exact WorkflowStore.governed_step governed label
    · rw [workflow]
      exact WorkflowStore.untouched_step governed.safe untouched label
    · rw [approval, approvalAfter] at waiting
      split at waiting
      · cases waiting
      · next effective =>
        have awaiting := pending waiting
        rw [workflow]
        refine awaiting_step governed untouched awaiting ⟨approved, fun cancel => effective ?_⟩
        rw [awaiting]
        exact ⟨cancel, waiting, by decide, by decide, by decide⟩

theorem lawful_step (ruled : Ruled spec s) {move : Move} (moved : step spec s move = some s') :
    Lawful s move s' := by
  refine ⟨fun past kept approved => ?_, fun paused unresumed unretried => ?_,
    (ruled_step ruled moved).governed.agrees⟩
  · cases move with
    | resumeAfterApproval => exact absurd rfl approved
    | rejectApproval =>
      obtain rfl := Option.some.inj moved
      rw [rejectApproval_state, if_neg ?_]
      · exact .refl _
      · intro waiting
        rw [ruled.pending waiting] at past
        rcases past with past | past <;> cases past
    | operation label =>
      rw [(step_operation moved).2.1]
      refine WorkflowStore.unmoved_step ruled.governed past label fun cancelled taskId same => ?_
      exact kept cancelled taskId (congrArg Move.operation same)
  · rcases step_workflow moved with same | ⟨status, parentStatus, same⟩ | ⟨label, rfl, same⟩
    · rw [same]
    · rw [same]
      rfl
    · rw [same]
      refine WorkflowStore.starts_none_of_paused paused label ⟨fun uncaught same => ?_, fun taskId same => ?_⟩
      · exact unresumed uncaught (congrArg Move.operation same)
      · exact unretried taskId (congrArg Move.operation same)

theorem ruled_created (order : TaskOrder spec) : Ruled spec (created order) where
  governed := WorkflowStore.governed_created order
  untouched := by
    intro _ task member
    obtain ⟨id, -, rfl⟩ := List.mem_map.mp member
    rfl
  pending := fun _ => rfl

/-- What is past stays as it is under every move, and a paused workflow starts no task until it is
resumed. -/
structure Final (s : PlanStore) (move : Move) (s' : PlanStore) : Prop where
  final : s.workflow.status = .succeeded ∨ s.workflow.status = .cancelled →
    Unmoved s.workflow s'.workflow
  paused : s.workflow.status = .paused →
    (∀ uncaught, move ≠ .operation (.resume uncaught)) →
    s'.workflow.runs.length = s.workflow.runs.length
  agrees : s'.workflow.parentStatus = s'.workflow.status.runStatus

def cancelledRun : List Move :=
  [.resumeAfterApproval, .operation .readyRuns, .operation .cancel]

end PlanStore

end Taroai.Workflow
