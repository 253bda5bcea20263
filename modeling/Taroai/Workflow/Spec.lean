import Mathlib.Data.Set.Finite.List
import Taroai.Lib.Dag
import Taroai.Lib.Table

/-! Workflow specifications of `workflow.py`. The fields of `WorkflowSpec` that are proofs say
what its pydantic constraints and `validate_graph` accept. Titles, prompts and tool hints of a
task, which only the texts for the model use, are left out. -/

namespace Taroai.Workflow

open Relation

structure WorkflowTaskSpec where
  id : String
  dependsOn : List String
deriving DecidableEq, Repr

structure WorkflowPhaseSpec where
  id : String
  tasks : List WorkflowTaskSpec
  tasks_nonempty : tasks ≠ []
deriving DecidableEq

/-- The task `d` has to succeed before the task `t` may start. -/
def Precedes (tasks : List WorkflowTaskSpec) (d t : String) : Prop :=
  ∃ task ∈ tasks, task.id = t ∧ d ∈ task.dependsOn

structure WorkflowSpec where
  phases : List WorkflowPhaseSpec
  maxConcurrency : Nat
  phases_nonempty : phases ≠ []
  concurrency_bounds : 1 ≤ maxConcurrency ∧ maxConcurrency ≤ 8
  tasks_length : (phases.flatMap WorkflowPhaseSpec.tasks).length ≤ 100
  ids_unique : ((phases.flatMap WorkflowPhaseSpec.tasks).map WorkflowTaskSpec.id).Nodup
  phase_ids_unique : (phases.map WorkflowPhaseSpec.id).Nodup
  known : ∀ d t, Precedes (phases.flatMap WorkflowPhaseSpec.tasks) d t →
    d ∈ (phases.flatMap WorkflowPhaseSpec.tasks).map WorkflowTaskSpec.id
  acyclic : ∀ id, ¬ TransGen (Precedes (phases.flatMap WorkflowPhaseSpec.tasks)) id id

namespace WorkflowSpec

variable (spec : WorkflowSpec)

def tasks : List WorkflowTaskSpec := spec.phases.flatMap WorkflowPhaseSpec.tasks

def taskIds : List String := spec.tasks.map WorkflowTaskSpec.id

def table : Table WorkflowTaskSpec.id := ⟨spec.tasks, spec.ids_unique⟩

def task (taskId : String) : Option WorkflowTaskSpec := spec.table.get? taskId

variable {spec}

theorem exists_task : ∃ task, task ∈ spec.tasks := by
  obtain ⟨phase, inside⟩ := List.exists_mem_of_ne_nil _ spec.phases_nonempty
  obtain ⟨task, member⟩ := List.exists_mem_of_ne_nil _ phase.tasks_nonempty
  exact ⟨task, List.mem_flatMap.mpr ⟨phase, inside, member⟩⟩

theorem exists_task_of_mem {taskId : String} (member : taskId ∈ spec.taskIds) :
    ∃ task, spec.task taskId = some task := by
  obtain ⟨task, inside, rfl⟩ := List.mem_map.mp member
  exact ⟨task, Table.get?_of_mem (t := spec.table) inside⟩

theorem precedes_iff {taskId : String} {task : WorkflowTaskSpec}
    (found : spec.task taskId = some task) (d : String) :
    Precedes spec.tasks d taskId ↔ d ∈ task.dependsOn := by
  constructor
  · rintro ⟨other, member, rfl, depends⟩
    have listed : spec.task other.id = some other := Table.get?_of_mem (t := spec.table) member
    obtain rfl : other = task := Option.some.inj (listed.symm.trans found)
    exact depends
  · intro depends
    exact ⟨task, Table.mem_of_get? found, Table.key_of_get? found, depends⟩

theorem precedes_wellFounded : WellFounded (Precedes spec.tasks) :=
  Dag.wellFounded_of_acyclic (List.finite_toSet spec.taskIds) (fun d t => spec.known d t)
    spec.acyclic

end WorkflowSpec

end Taroai.Workflow
