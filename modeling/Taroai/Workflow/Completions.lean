import Taroai.Workflow.Approval

/-! Reports about child runs that are late or repeated. A run whose report has been taken, or
that a retry has replaced, is settled and stays so, and a report about a settled run does
nothing. So the reports start each task at most once, as only a retry makes a task pending again. -/

namespace Taroai.Workflow

open Relation

namespace WorkflowStore

variable {spec : WorkflowSpec} {s s' t : WorkflowStore}

def Linked (s : WorkflowStore) : Prop :=
  ∀ task ∈ s.tasks.entries, ∀ runId, task.childRunId = some runId →
    (s.runs[runId]?).map ChildRun.taskId = some task.taskId

structure Settled (s : WorkflowStore) (runId : Nat) : Prop where
  created : runId < s.runs.length
  ended : ∀ task ∈ s.tasks.entries, task.childRunId = some runId → task.status.ended = true

def waiting (s : WorkflowStore) (taskId : String) : Nat :=
  if s.tasks.entries.any fun task => task.taskId = taskId ∧ task.status = .pending then 1 else 0

/-- A task keeps its child run and does not open again for it, or has a new run or none. -/
def Carried (s s' : WorkflowStore) (before after : WorkflowTask) : Prop :=
  ∀ runId, after.childRunId = some runId →
    (before.childRunId = some runId ∧ (before.status.ended = true → after.status.ended = true)) ∨
    (s.runs.length ≤ runId ∧ (s'.runs[runId]?).map ChildRun.taskId = some after.taskId)

structure Follows (s s' : WorkflowStore) : Prop where
  runs : ∀ runId, runId < s.runs.length →
    (s'.runs[runId]?).map ChildRun.taskId = (s.runs[runId]?).map ChildRun.taskId
  tasks : ∀ after ∈ s'.tasks.entries, ∃ before ∈ s.tasks.entries,
    before.taskId = after.taskId ∧ Carried s s' before after
  succeeded : ∀ d, s.Succeeded d → s'.Succeeded d

namespace Follows

theorem refl (s : WorkflowStore) : Follows s s where
  runs := fun _ _ => rfl
  tasks := fun task inside => ⟨task, inside, rfl, fun _ child => Or.inl ⟨child, id⟩⟩
  succeeded := fun _ done => done

theorem length_le (follows : Follows s s') : s.runs.length ≤ s'.runs.length := by
  by_contra shorter
  have kept := follows.runs s'.runs.length (by omega)
  simp [List.getElem?_eq_getElem (show s'.runs.length < s.runs.length by omega)] at kept

theorem trans (first : Follows s s') (next : Follows s' t) : Follows s t := by
  have grown := first.length_le
  refine ⟨fun runId created => ?_, fun after inside => ?_, fun d done => ?_⟩
  · rw [next.runs runId (by omega), first.runs runId created]
  · obtain ⟨middle, inside, same, carried⟩ := next.tasks after inside
    obtain ⟨before, inside, same', carried'⟩ := first.tasks middle inside
    refine ⟨before, inside, same'.trans same, fun runId child => ?_⟩
    rcases carried runId child with ⟨child, kept⟩ | ⟨fresh, created⟩
    · rcases carried' runId child with ⟨child, kept'⟩ | ⟨fresh, created⟩
      · exact Or.inl ⟨child, kept ∘ kept'⟩
      · have present : runId < s'.runs.length := by
          by_contra absent
          simp [List.getElem?_eq_none (Nat.le_of_not_lt absent)] at created
        refine Or.inr ⟨fresh, ?_⟩
        rw [next.runs runId present, created, same]
    · exact Or.inr ⟨by omega, created⟩
  · exact next.succeeded d (first.succeeded d done)

theorem of_updateTask {listed : WorkflowTask} {changes : WorkflowTask → WorkflowTask}
    (stored : listed ∈ s.tasks.entries)
    (carried : Carried s (s.updateTask listed.taskId changes) listed
      { changes listed with taskId := listed.taskId })
    (succeeded : listed.status = .succeeded → (changes listed).status = .succeeded) :
    Follows s (s.updateTask listed.taskId changes) := by
  refine ⟨fun _ _ => rfl, fun after member => ?_, fun d done => ?_⟩
  · obtain ⟨old, inside, sameId, ⟨rfl, -⟩ | ⟨rfl, same⟩⟩ := mem_updateTask member
    · exact ⟨after, inside, rfl, fun _ child => Or.inl ⟨child, id⟩⟩
    · obtain rfl := eq_of_taskId inside stored same
      exact ⟨old, inside, rfl, carried⟩
  · refine done.updateTask fun task inside same done => ?_
    rw [eq_of_taskId inside stored same] at done ⊢
    exact succeeded done

theorem of_createTaskRun {task : WorkflowTask} (startable : Startable spec s task) :
    Follows s (s.createTaskRun task) := by
  have runs (runId : Nat) (created : runId < s.runs.length) :
      ((s.createTaskRun task).runs[runId]?) = s.runs[runId]? := by
    simp [createTaskRun, updateTask, List.getElem?_append_left created]
  refine ⟨fun runId created => by rw [runs runId created], fun after member => ?_,
    succeeded_createTaskRun startable⟩
  obtain ⟨old, inside, sameId, ⟨rfl, -⟩ | ⟨rfl, same⟩⟩ := mem_updateTask member
  · exact ⟨after, inside, rfl, fun _ child => Or.inl ⟨child, id⟩⟩
  · refine ⟨old, inside, rfl, fun runId child => Or.inr ?_⟩
    obtain rfl := Option.some.inj child
    simp [createTaskRun, updateTask, same]

end Follows

theorem follows_write (write : Write spec s s') : Follows s s' := by
  cases write with
  | start task startable running => exact .of_createTaskRun startable
  | run task inside queued =>
    refine .of_updateTask inside (fun runId child => Or.inl ⟨child, fun ended => ?_⟩) fun done => ?_
    · rw [queued] at ended
      cases ended
    · rw [queued] at done
      cases done
  | finish task changes inside unfinished ended child =>
    refine .of_updateTask inside (fun runId same => Or.inl ⟨?_, fun _ => ended⟩) fun done => ?_
    · rwa [← child]
    · rw [done] at unfinished
      cases unfinished
  | runs runId f keeps =>
    refine ⟨fun other _ => ?_, fun task inside => ⟨task, inside, rfl, ?_⟩, fun _ done => done⟩
    · rw [← List.getElem?_map, ← List.getElem?_map]
      exact congrArg (fun ids => ids[other]?) (taskIds_modify runId f keeps)
    · exact fun _ child => Or.inl ⟨child, id⟩
  | status status parentStatus =>
    exact ⟨fun _ _ => rfl, fun task inside => ⟨task, inside, rfl, fun _ child => Or.inl ⟨child, id⟩⟩,
      fun _ done => done⟩

theorem follows_resetTask {task : WorkflowTask} (inside : task ∈ s.tasks.entries)
    (retryable : task.status.retryable = true) : Follows s (s.resetTask task.taskId) := by
  refine .of_updateTask inside (fun runId child => ?_) fun done => ?_
  · cases child
  · rw [done] at retryable
    cases retryable

theorem follows_writes (writes : Writes spec s s') : Follows s s' := by
  induction writes with
  | refl => exact Follows.refl s
  | tail _ write ih => exact ih.trans (follows_write write)

theorem follows_step (s : WorkflowStore) (label : Label) :
    Follows s (perform spec label s).2 := by
  by_cases retry : ∃ taskId, label = .retryTask taskId
  · obtain ⟨taskId, rfl⟩ := retry
    rcases writes_retryTask spec s taskId with same | ⟨task, inside, rfl, retryable, writes⟩
    · rw [show (perform spec (.retryTask taskId) s).2 = s from same]
      exact Follows.refl s
    · exact (follows_resetTask inside retryable).trans (follows_writes writes)
  · exact follows_writes (writes_step spec s label fun taskId same => retry ⟨taskId, same⟩)

theorem Linked.step (linked : s.Linked) (follows : Follows s s') : s'.Linked := by
  intro after inside runId child
  obtain ⟨before, inside, same, carried⟩ := follows.tasks after inside
  rcases carried runId child with ⟨child, -⟩ | ⟨-, created⟩
  · have found := linked before inside runId child
    have present : runId < s.runs.length := by
      by_contra absent
      simp [List.getElem?_eq_none (Nat.le_of_not_lt absent)] at found
    rw [follows.runs runId present, found, same]
  · exact created

theorem Settled.step {runId : Nat} (settled : s.Settled runId) (follows : Follows s s') :
    s'.Settled runId := by
  refine ⟨Nat.lt_of_lt_of_le settled.created follows.length_le, fun after inside child => ?_⟩
  obtain ⟨before, inside, -, carried⟩ := follows.tasks after inside
  rcases carried runId child with ⟨child, kept⟩ | ⟨fresh, -⟩
  · exact kept (settled.ended before inside child)
  · exact absurd settled.created (Nat.not_lt.mpr fresh)

theorem Linked.unique (linked : s.Linked) {runId : Nat} {task other : WorkflowTask}
    (inside : task ∈ s.tasks.entries) (child : task.childRunId = some runId)
    (listed : other ∈ s.tasks.entries) (child' : other.childRunId = some runId) :
    task = other := by
  refine eq_of_taskId inside listed (Option.some.inj ?_)
  rw [← linked task inside runId child, ← linked other listed runId child']

theorem settled_completeChild (linked : s.Linked) {runId : Nat} (created : runId < s.runs.length)
    (outcome : Outcome) (uncaught : Option String) :
    (completeChild spec runId outcome uncaught s).2.Settled runId := by
  cases found : s.taskForChildRun runId with
  | none =>
    rw [completeChild_of_ended (fun task given => by rw [found] at given; cases given)]
    refine ⟨created, fun task inside child => ?_⟩
    simpa [child] using List.find?_eq_none.mp found task inside
  | some task =>
    obtain ⟨inside, child⟩ := mem_of_taskForChildRun found
    -- the task is the only one of the run
    have only (other : WorkflowTask) (listed : other ∈ s.tasks.entries)
        (child' : other.childRunId = some runId) : other = task :=
      linked.unique listed child' inside child
    cases past : task.status.ended with
    | true =>
      rw [completeChild_of_ended (fun other given => by
        rw [← Option.some.inj (found.symm.trans given), past])]
      refine ⟨created, fun other listed child' => ?_⟩
      rw [only other listed child', past]
    | false =>
      obtain ⟨changes, ended, -, writes⟩ := writes_report found past outcome uncaught
      have settled : (s.updateTask task.taskId changes).Settled runId := by
        refine ⟨created, fun other member child' => ?_⟩
        obtain ⟨old, listed, -, ⟨rfl, differs⟩ | ⟨rfl, same⟩⟩ := mem_updateTask member
        · exact absurd (congrArg WorkflowTask.taskId (only other listed child')) differs
        · rw [eq_of_taskId listed inside same]
          exact ended
      exact settled.step (follows_writes writes)

section Starts

theorem waiting_le_one (taskId : String) : s.waiting taskId ≤ 1 := by
  unfold waiting
  split <;> omega

theorem waiting_eq_one_iff {taskId : String} : s.waiting taskId = 1 ↔
    ∃ task ∈ s.tasks.entries, task.taskId = taskId ∧ task.status = .pending := by
  simp [waiting]

theorem waiting_le_of {taskId : String}
    (pending : ∀ task ∈ s'.tasks.entries, task.taskId = taskId → task.status = .pending →
      ∃ old ∈ s.tasks.entries, old.taskId = taskId ∧ old.status = .pending) :
    s'.waiting taskId ≤ s.waiting taskId := by
  by_cases waits : s'.waiting taskId = 1
  · obtain ⟨task, inside, same, status⟩ := waiting_eq_one_iff.mp waits
    rw [waits, waiting_eq_one_iff.mpr (pending task inside same status)]
  · have := waiting_le_one (s := s') taskId
    omega

theorem waiting_updateTask_le {taskId : String} {changes : WorkflowTask → WorkflowTask}
    (busy : ∀ task ∈ s.tasks.entries, task.taskId = taskId → (changes task).status ≠ .pending)
    (x : String) : (s.updateTask taskId changes).waiting x ≤ s.waiting x := by
  refine waiting_le_of fun task member same pending => ?_
  obtain ⟨old, inside, sameId, ⟨rfl, -⟩ | ⟨rfl, changed⟩⟩ := mem_updateTask member
  · exact ⟨task, inside, same, pending⟩
  · exact absurd pending (busy old inside changed)

theorem starts_write (write : Write spec s s') (taskId : String) :
    s'.createdFor taskId + s'.waiting taskId ≤ s.createdFor taskId + s.waiting taskId := by
  cases write with
  | start task startable running =>
    rw [createdFor_createTaskRun]
    have kept : (s.createTaskRun task).waiting taskId ≤ s.waiting taskId :=
      waiting_updateTask_le (s := { s with runs := _ }) (fun _ _ _ => by simp) taskId
    split_ifs with same
    · have before : s.waiting taskId = 1 :=
        waiting_eq_one_iff.mpr ⟨task, startable.inside, same, startable.pending⟩
      have after : ¬ (s.createTaskRun task).waiting taskId = 1 := by
        rw [waiting_eq_one_iff]
        rintro ⟨other, member, sameId, pending⟩
        obtain ⟨old, -, -, ⟨rfl, differs⟩ | ⟨rfl, -⟩⟩ := mem_updateTask member
        · exact differs (sameId.trans same.symm)
        · cases pending
      omega
    · omega
  | run task inside queued =>
    exact Nat.add_le_add_left (waiting_updateTask_le (fun _ _ _ => by simp) taskId) _
  | finish task changes inside unfinished ended child =>
    refine Nat.add_le_add_left (waiting_updateTask_le (fun other listed same pending => ?_) taskId) _
    rw [eq_of_taskId listed inside same] at pending
    rw [pending] at ended
    cases ended
  | runs runId f keeps =>
    simp only [createdFor, taskIds_modify runId f keeps]
    exact Nat.le_refl _
  | status status parentStatus => exact Nat.le_refl _

theorem starts_writes (writes : Writes spec s s') (taskId : String) :
    s'.createdFor taskId + s'.waiting taskId ≤ s.createdFor taskId + s.waiting taskId := by
  induction writes with
  | refl => exact Nat.le_refl _
  | tail _ write ih => exact Nat.le_trans (starts_write write taskId) ih

theorem waiting_resetTask_le (taskId other : String) :
    (s.resetTask taskId).waiting other ≤
      s.waiting other + if taskId = other then 1 else 0 := by
  by_cases same : taskId = other
  · rw [if_pos same]
    have := waiting_le_one (s := s.resetTask taskId) other
    omega
  · rw [if_neg same]
    refine waiting_le_of fun task member sameId pending => ?_
    obtain ⟨old, inside, -, ⟨rfl, -⟩ | ⟨rfl, changed⟩⟩ := mem_updateTask member
    · exact ⟨task, inside, sameId, pending⟩
    · exact absurd (changed.symm.trans sameId) same

theorem starts_step (s : WorkflowStore) (label : Label) (taskId : String) :
    (perform spec label s).2.createdFor taskId + (perform spec label s).2.waiting taskId ≤
      s.createdFor taskId + s.waiting taskId + if label = .retryTask taskId then 1 else 0 := by
  by_cases retry : ∃ other, label = .retryTask other
  · obtain ⟨other, rfl⟩ := retry
    rcases writes_retryTask spec s other with same | ⟨-, -, -, -, writes⟩
    · rw [show (perform spec (.retryTask other) s).2 = s from same]
      omega
    · have spent := starts_writes writes taskId
      have reset := waiting_resetTask_le (s := s) other taskId
      have created : (s.resetTask other).createdFor taskId = s.createdFor taskId := rfl
      simp only [Label.retryTask.injEq]
      change (retryTask spec other s).2.createdFor taskId +
        (retryTask spec other s).2.waiting taskId ≤ _
      omega
  · have spent := starts_writes
      (writes_step spec s label fun other same => retry ⟨other, same⟩) taskId
    omega

theorem done_write (write : Write spec s s') {taskId : String}
    (started : s.createdFor taskId < s'.createdFor taskId) (d : String)
    (precedes : Precedes spec.tasks d taskId) : s.Succeeded d := by
  cases write with
  | start task startable running =>
    rw [createdFor_createTaskRun] at started
    split_ifs at started with same
    · exact startable.done d (same ▸ precedes)
    · omega
  | run task inside queued => exact absurd started (Nat.lt_irrefl _)
  | finish task changes inside unfinished ended child => exact absurd started (Nat.lt_irrefl _)
  | runs runId f keeps =>
    simp only [createdFor, taskIds_modify runId f keeps] at started
    omega
  | status status parentStatus => exact absurd started (Nat.lt_irrefl _)

theorem done_writes (writes : Writes spec s s') {taskId : String}
    (started : s.createdFor taskId < s'.createdFor taskId) (d : String)
    (precedes : Precedes spec.tasks d taskId) : s'.Succeeded d := by
  induction writes with
  | refl => exact absurd started (Nat.lt_irrefl _)
  | @tail b c _ write ih =>
    refine (follows_write write).succeeded d ?_
    by_cases before : s.createdFor taskId < b.createdFor taskId
    · exact ih before
    · exact done_write write (by omega) d precedes

theorem done_step (s : WorkflowStore) (label : Label) {taskId : String}
    (started : s.createdFor taskId < (perform spec label s).2.createdFor taskId) (d : String)
    (precedes : Precedes spec.tasks d taskId) : (perform spec label s).2.Succeeded d := by
  by_cases retry : ∃ other, label = .retryTask other
  · obtain ⟨other, rfl⟩ := retry
    rcases writes_retryTask spec s other with same | ⟨-, -, -, -, writes⟩
    · change s.createdFor taskId < (retryTask spec other s).2.createdFor taskId at started
      rw [same] at started
      omega
    · exact done_writes writes started d precedes
  · exact done_writes (writes_step spec s label fun other same => retry ⟨other, same⟩) started d precedes

end Starts

theorem linked_created (order : TaskOrder spec) : (created order).Linked := by
  intro task inside runId child
  obtain ⟨id, -, rfl⟩ := List.mem_map.mp inside
  cases child

end WorkflowStore

namespace PlanStore

open WorkflowStore (Follows twoSteps listed completed)

variable {spec : WorkflowSpec} {s s' t : PlanStore}

theorem follows_step {move : Move} (moved : step spec s move = some s') :
    Follows s.workflow s'.workflow := by
  rcases step_workflow moved with same | ⟨status, parentStatus, same⟩ | ⟨label, -, same⟩
  · rw [same]
    exact .refl _
  · rw [same]
    have write : WorkflowStore.Write spec s.workflow (s.workflow.setStatus status parentStatus) :=
      .status _ _
    exact WorkflowStore.follows_write write
  · rw [same]
    exact WorkflowStore.follows_step s.workflow label

theorem follows_run {moves : List Move} (ran : Machine.run (step spec) s moves = some t) :
    Follows s.workflow t.workflow :=
  Machine.relation_run (R := fun s t => Follows s.workflow t.workflow) (fun s => .refl s.workflow)
    (fun _ _ _ => .trans) (fun _ _ _ => follows_step) ran

theorem starts_step {move : Move} (moved : step spec s move = some s') (taskId : String) :
    s'.workflow.createdFor taskId + s'.workflow.waiting taskId ≤
      s.workflow.createdFor taskId + s.workflow.waiting taskId +
        if move = .operation (.retryTask taskId) then 1 else 0 := by
  rcases step_workflow moved with same | ⟨status, parentStatus, same⟩ | ⟨label, rfl, same⟩
  · rw [same]
    omega
  · rw [same]
    exact Nat.le_add_right _ _
  · rw [same]
    simp only [Move.operation.injEq]
    exact WorkflowStore.starts_step s.workflow label taskId

theorem starts_run {moves : List Move} (ran : Machine.run (step spec) s moves = some t)
    (taskId : String) : t.workflow.createdFor taskId + t.workflow.waiting taskId ≤
      s.workflow.createdFor taskId + s.workflow.waiting taskId +
        moves.count (.operation (.retryTask taskId)) := by
  induction moves generalizing s with
  | nil =>
    cases ran
    exact Nat.le_refl _
  | cons move rest ih =>
    obtain ⟨s', moved, rest⟩ := Machine.run_cons_eq_some.mp ran
    have first := starts_step moved taskId
    have later := ih rest
    rw [List.count_cons]
    simp only [beq_iff_eq]
    omega

theorem done_step {move : Move} (moved : step spec s move = some s') {taskId : String}
    (started : s.workflow.createdFor taskId < s'.workflow.createdFor taskId) (d : String)
    (precedes : Precedes spec.tasks d taskId) : s'.workflow.Succeeded d := by
  rcases step_workflow moved with same | ⟨status, parentStatus, same⟩ | ⟨label, -, same⟩
  · rw [same] at started
    omega
  · rw [same] at started
    exact absurd started (Nat.lt_irrefl _)
  · rw [same] at started ⊢
    exact WorkflowStore.done_step s.workflow label started d precedes

theorem done_run {moves : List Move} (ran : Machine.run (step spec) s moves = some t)
    {taskId : String} (started : s.workflow.createdFor taskId < t.workflow.createdFor taskId)
    (d : String) (precedes : Precedes spec.tasks d taskId) : t.workflow.Succeeded d := by
  induction moves generalizing s with
  | nil =>
    cases ran
    exact absurd started (Nat.lt_irrefl _)
  | cons move rest ih =>
    obtain ⟨s', moved, rest⟩ := Machine.run_cons_eq_some.mp ran
    by_cases first : s.workflow.createdFor taskId < s'.workflow.createdFor taskId
    · exact (follows_run rest).succeeded d (done_step moved first d precedes)
    · exact ih rest (by omega)

/-- The run is the child of no task any more, or it existed when an operation reported it. -/
def Stale (spec : WorkflowSpec) (start : PlanStore) (moves : List Move) (s : PlanStore)
    (runId : Nat) : Prop :=
  (∀ task ∈ s.workflow.tasks.entries, task.childRunId ≠ some runId) ∨
    ∃ before outcome uncaught after middle,
      moves = before ++ .operation (.completeChild runId outcome uncaught) :: after ∧
        Machine.run (step spec) start before = some middle ∧ runId < middle.workflow.runs.length

theorem settled_of_reported {order : TaskOrder spec} {before after : List Move} {runId : Nat}
    {outcome : WorkflowStore.Outcome} {uncaught : Option String} {middle : PlanStore}
    (ran : Machine.run (step spec) (created order)
      (before ++ .operation (.completeChild runId outcome uncaught) :: after) = some s)
    (first : Machine.run (step spec) (created order) before = some middle)
    (existed : runId < middle.workflow.runs.length) : s.workflow.Settled runId := by
  rw [Machine.run_append, first, Option.bind_some] at ran
  obtain ⟨reported, moved, rest⟩ := Machine.run_cons_eq_some.mp ran
  have linked : middle.workflow.Linked :=
    (WorkflowStore.linked_created order).step (follows_run first)
  have settled : reported.workflow.Settled runId := by
    rw [(step_operation moved).2.1]
    exact WorkflowStore.settled_completeChild linked existed outcome uncaught
  exact settled.step (follows_run rest)

/-- Reports about stale runs do nothing. A task is started once while it is pending, and once for
each retry, and then with its dependencies succeeded. -/
structure Harmless (spec : WorkflowSpec) (start : PlanStore) (moves later : List Move)
    (s t : PlanStore) : Prop where
  stale : ∀ runId outcome uncaught, Stale spec start moves s runId →
    WorkflowStore.completeChild spec runId outcome uncaught s.workflow = (.ok [], s.workflow)
  starts : ∀ taskId, t.workflow.createdFor taskId ≤
    s.workflow.createdFor taskId + s.workflow.waiting taskId +
      later.count (.operation (.retryTask taskId))
  done : ∀ taskId, s.workflow.createdFor taskId < t.workflow.createdFor taskId →
    ∀ d, Precedes spec.tasks d taskId → t.workflow.Succeeded d

theorem stale_completion_harmless (order : TaskOrder spec) (moves later : List Move)
    (s t : PlanStore) (ran : Machine.run (step spec) (created order) moves = some s)
    (continued : Machine.run (step spec) s later = some t) :
    Harmless spec (created order) moves later s t := by
  refine ⟨fun runId outcome uncaught stale => ?_, fun taskId => ?_, fun _ => done_run continued⟩
  · refine WorkflowStore.completeChild_of_ended (fun task found => ?_) outcome uncaught
    obtain ⟨inside, child⟩ := WorkflowStore.mem_of_taskForChildRun found
    rcases stale with orphaned | ⟨before, outcome', uncaught', after, middle, rfl, first, existed⟩
    · exact absurd child (orphaned task inside)
    · exact (settled_of_reported ran first existed).ended task inside child
  · have started := starts_run continued taskId
    omega

def gathered : List Move :=
  [.resumeAfterApproval, .operation .readyRuns, .operation (.completeChild 0 completed none)]

/-- The second report of the first run changes nothing, and that of its dependent is new. -/
theorem stale_completion_harmless_gathered :
    Harmless twoSteps (created listed) gathered
      [.operation (.completeChild 0 completed none), .operation (.completeChild 1 completed none)]
      (Machine.final (step twoSteps) (created listed) gathered rfl)
      (Machine.final (step twoSteps) (Machine.final (step twoSteps) (created listed) gathered rfl)
        [.operation (.completeChild 0 completed none),
          .operation (.completeChild 1 completed none)] rfl) :=
  stale_completion_harmless listed _ _ _ _ (Machine.run_final _ _ _ rfl)
    (Machine.run_final _ _ _ rfl)

end PlanStore

end Taroai.Workflow
