import Mathlib.Data.List.Dedup
import Taroai.Lib.Dag
import Taroai.Workflow.Spec

/-! `WorkflowSpec.validate_graph`, run on the phases of a specification whose fields have passed
their own constraints. -/

namespace Taroai.Workflow

open Relation

inductive GraphError where
  | tooManyTasks
  | taskIdsNotUnique
  | phaseIdsNotUnique
  | selfDependency (taskId : String)
  | unknownDependencies (taskId : String) (missing : List String)
  | cycle
deriving DecidableEq, Repr

variable (tasks : List WorkflowTaskSpec)

/-- `graph[task_id]`, for a task of the specification. -/
def dependenciesOf (taskId : String) : List String :=
  ((tasks.find? fun task => task.id = taskId).map WorkflowTaskSpec.dependsOn).getD []

/-- The loop over `graph.items()`. -/
def checkDependencies (known : List String) : List WorkflowTaskSpec → Except GraphError Unit
  | [] => .ok ()
  | task :: rest =>
    let missing := task.dependsOn.filter (· ∉ known)
    if task.id ∈ task.dependsOn then .error (.selfDependency task.id)
    else if missing ≠ [] then .error (.unknownDependencies task.id missing.dedup.mergeSort)
    else checkDependencies known rest

/-- `visit` for every id. All dependencies are known by then, so that a call is inside no more
calls than there are ids. -/
def checkCycles : Except GraphError Unit :=
  let ids := tasks.map WorkflowTaskSpec.id
  if (DepthFirst.search (dependenciesOf tasks) (ids.length + 1) ids).isSome then .ok ()
  else .error .cycle

def validateGraph (phases : List WorkflowPhaseSpec) : Except GraphError Unit :=
  let tasks := phases.flatMap WorkflowPhaseSpec.tasks
  let ids := tasks.map WorkflowTaskSpec.id
  if 100 < tasks.length then .error .tooManyTasks
  else if ¬ids.Nodup then .error .taskIdsNotUnique
  else if ¬(phases.map WorkflowPhaseSpec.id).Nodup then .error .phaseIdsNotUnique
  else do
    checkDependencies ids tasks
    checkCycles tasks

structure ValidGraph (phases : List WorkflowPhaseSpec) : Prop where
  tasks_length : (phases.flatMap WorkflowPhaseSpec.tasks).length ≤ 100
  ids_unique : ((phases.flatMap WorkflowPhaseSpec.tasks).map WorkflowTaskSpec.id).Nodup
  phase_ids_unique : (phases.map WorkflowPhaseSpec.id).Nodup
  named : ∀ d t, Precedes (phases.flatMap WorkflowPhaseSpec.tasks) d t →
    d ∈ (phases.flatMap WorkflowPhaseSpec.tasks).map WorkflowTaskSpec.id ∧ d ≠ t
  acyclic : ∀ id, ¬TransGen (Precedes (phases.flatMap WorkflowPhaseSpec.tasks)) id id

section Checks

variable {tasks}

theorem checkDependencies_ok {known : List String} {checked : List WorkflowTaskSpec} :
    checkDependencies known checked = .ok () ↔
      ∀ task ∈ checked, ∀ d ∈ task.dependsOn, d ∈ known ∧ d ≠ task.id := by
  induction checked with
  | nil => simp [checkDependencies]
  | cons task rest ih =>
    rw [checkDependencies, List.forall_mem_cons]
    by_cases self : task.id ∈ task.dependsOn
    · rw [if_pos self]
      refine iff_of_false (fun ok => nomatch ok) fun all => (all.1 task.id self).2 rfl
    · rw [if_neg self]
      have apart : ∀ d ∈ task.dependsOn, d ≠ task.id := fun d member same => self (same ▸ member)
      by_cases missing : task.dependsOn.filter (· ∉ known) = []
      · rw [if_neg (not_not.mpr missing), ih]
        simp only [List.filter_eq_nil_iff, decide_not, Bool.not_eq_true', decide_eq_false_iff_not,
          not_not] at missing
        exact (and_iff_right fun d member => ⟨missing d member, apart d member⟩).symm
      · rw [if_pos missing]
        refine iff_of_false (fun ok => nomatch ok) fun all => missing ?_
        simpa [List.filter_eq_nil_iff] using fun d member => (all.1 d member).1

theorem precedes_iff_mem (distinct : (tasks.map WorkflowTaskSpec.id).Nodup) (d t : String) :
    Precedes tasks d t ↔ d ∈ dependenciesOf tasks t := by
  let table : Table WorkflowTaskSpec.id := ⟨tasks, distinct⟩
  have reads : dependenciesOf tasks t = ((table.get? t).map WorkflowTaskSpec.dependsOn).getD [] :=
    rfl
  rw [reads]
  constructor
  · rintro ⟨task, member, rfl, depends⟩
    rw [Table.get?_of_mem (t := table) member]
    exact depends
  · intro depends
    cases found : table.get? t with
    | none => simp [found] at depends
    | some task =>
      rw [found] at depends
      exact ⟨task, Table.mem_of_get? found, Table.key_of_get? found, depends⟩

theorem checkCycles_ok (distinct : (tasks.map WorkflowTaskSpec.id).Nodup)
    (known : ∀ d t, Precedes tasks d t → d ∈ tasks.map WorkflowTaskSpec.id) :
    checkCycles tasks = .ok () ↔ ∀ id, ¬TransGen (Precedes tasks) id id := by
  have ways (id : String) : TransGen (DepthFirst.Leads (dependenciesOf tasks)) id id ↔
      TransGen (Precedes tasks) id id := by
    rw [← transGen_swap]
    have same : Function.swap (DepthFirst.Leads (dependenciesOf tasks)) = Precedes tasks := by
      ext d t
      exact (precedes_iff_mem distinct d t).symm
    rw [same]
  have searched : (DepthFirst.search (dependenciesOf tasks)
        ((tasks.map WorkflowTaskSpec.id).length + 1) (tasks.map WorkflowTaskSpec.id)).isSome =
      true ↔ ∀ id, ¬TransGen (DepthFirst.Leads (dependenciesOf tasks)) id id :=
    DepthFirst.search_isSome_iff
    (fun t _ d leads => known d t ((precedes_iff_mem distinct d t).mpr leads))
    (fun t absent => by
      unfold dependenciesOf
      have none_found : (tasks.find? fun task => task.id = t) = none := by
        rw [List.find?_eq_none]
        intro task member same
        exact absent (List.mem_map.mpr ⟨task, member, by simpa using same⟩)
      rw [none_found]
      rfl)
  simp only [ways] at searched
  rw [← searched, checkCycles]
  split
  · next through => exact iff_of_true rfl through
  · next caught => exact iff_of_false (fun ok => nomatch ok) caught

end Checks

theorem guarded_ok {p : Prop} [Decidable p] {raised : GraphError}
    {rest : Except GraphError Unit} :
    (if p then .error raised else rest) = .ok () ↔ ¬p ∧ rest = .ok () := by
  split <;> simp [*]

theorem then_ok {first rest : Except GraphError Unit} :
    (first >>= fun _ => rest) = .ok () ↔ first = .ok () ∧ rest = .ok () := by
  cases first with
  | error raised => exact iff_of_false (fun ok => nomatch ok) fun both => nomatch both.1
  | ok => exact (and_iff_right rfl).symm

theorem validateGraph_ok {phases : List WorkflowPhaseSpec} :
    validateGraph phases = .ok () ↔ ValidGraph phases := by
  have stages : validateGraph phases = .ok () ↔
      (phases.flatMap WorkflowPhaseSpec.tasks).length ≤ 100 ∧
        ((phases.flatMap WorkflowPhaseSpec.tasks).map WorkflowTaskSpec.id).Nodup ∧
        (phases.map WorkflowPhaseSpec.id).Nodup ∧
        checkDependencies ((phases.flatMap WorkflowPhaseSpec.tasks).map WorkflowTaskSpec.id)
          (phases.flatMap WorkflowPhaseSpec.tasks) = .ok () ∧
        checkCycles (phases.flatMap WorkflowPhaseSpec.tasks) = .ok () := by
    unfold validateGraph
    simp only [guarded_ok, then_ok, not_lt, not_not]
  rw [stages, checkDependencies_ok]
  constructor
  · rintro ⟨length, distinct, phasesDistinct, named, acyclic⟩
    have named (d t : String) (before : Precedes (phases.flatMap WorkflowPhaseSpec.tasks) d t) :
        d ∈ (phases.flatMap WorkflowPhaseSpec.tasks).map WorkflowTaskSpec.id ∧ d ≠ t := by
      obtain ⟨task, member, rfl, depends⟩ := before
      exact named task member d depends
    exact ⟨length, distinct, phasesDistinct, named,
      (checkCycles_ok distinct fun d t before => (named d t before).1).mp acyclic⟩
  · rintro ⟨length, distinct, phasesDistinct, named, acyclic⟩
    refine ⟨length, distinct, phasesDistinct, fun task member d depends => ?_, ?_⟩
    · exact named d task.id ⟨task, member, rfl, depends⟩
    · exact (checkCycles_ok distinct fun d t before => (named d t before).1).mpr acyclic

def WorkflowSpec.ofValidated (phases : List WorkflowPhaseSpec) (maxConcurrency : Nat)
    (nonempty : phases ≠ []) (bounds : 1 ≤ maxConcurrency ∧ maxConcurrency ≤ 8)
    (validated : validateGraph phases = .ok ()) : WorkflowSpec where
  phases := phases
  maxConcurrency := maxConcurrency
  phases_nonempty := nonempty
  concurrency_bounds := bounds
  tasks_length := (validateGraph_ok.mp validated).tasks_length
  ids_unique := (validateGraph_ok.mp validated).ids_unique
  phase_ids_unique := (validateGraph_ok.mp validated).phase_ids_unique
  known d t before := ((validateGraph_ok.mp validated).named d t before).1
  acyclic := (validateGraph_ok.mp validated).acyclic

/-- The validator accepts the valid graphs and raises at all others. -/
theorem validateGraph_exact (phases : List WorkflowPhaseSpec) :
    (validateGraph phases = .ok () ↔ ValidGraph phases) ∧
      (¬ValidGraph phases ↔ ∃ raised, validateGraph phases = .error raised) := by
  refine ⟨validateGraph_ok, ?_⟩
  rw [← validateGraph_ok]
  cases validateGraph phases with
  | ok => simp
  | error raised => simp

example : validateGraph [⟨"phase", [⟨"a", ["b"]⟩, ⟨"b", ["a"]⟩], by decide⟩] = .error .cycle := by
  decide

end Taroai.Workflow
