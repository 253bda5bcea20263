import Taroai.Workflow.Writes

/-! A workflow with the approval of its plan. `resume_after_approval` takes an approval that is
pending, and one that was approved before, as a redelivered request finds it, and it sets the
workflow running without a look at its status. `reject_approval` and `cancel` end a pending
approval. -/

namespace Taroai.Workflow

inductive ApprovalStatus where
  | pending
  | approved
  | rejected
  | cancelled
deriving DecidableEq, Repr

structure PlanStore where
  workflow : WorkflowStore
  approval : ApprovalStatus

inductive Move where
  | resumeAfterApproval
  | rejectApproval
  | operation (label : WorkflowStore.Label)
deriving DecidableEq, Repr

namespace PlanStore

variable (spec : WorkflowSpec)

abbrev Op := Raising WorkflowError PlanStore

/-- The workflow part of `resume_after_approval`; `ready_runs` is called after it. -/
def resumeAfterApproval : Op (List Nat) := do
  let approval ← Raising.read approval
  Raising.ensure (approval = .pending ∨ approval = .approved) (.valueError "approval is not approved")
  Raising.update fun s =>
    { workflow := s.workflow.setStatus .running .running, approval := .approved }
  pure []

def rejectApproval : Op (List Nat) := do
  let approval ← Raising.read approval
  if approval = .rejected then pure []
  else
    Raising.ensure (approval = .pending) (.valueError "approval is not pending")
    Raising.update fun s =>
      { workflow := s.workflow.setStatus .cancelled .cancelled, approval := .rejected }
    pure []

/-- What an operation of the coordinator does to the approval: a cancellation that takes effect
cancels a pending one. -/
def approvalAfter (s : PlanStore) (label : WorkflowStore.Label) : ApprovalStatus :=
  if label = .cancel ∧ s.approval = .pending ∧ s.workflow.status ≠ .cancelled ∧
      s.workflow.status ≠ .succeeded ∧ s.workflow.status ≠ .failed then .cancelled
  else s.approval

def operation (label : WorkflowStore.Label) : Op (List Nat) := fun s =>
  let (result, workflow) := WorkflowStore.perform spec label s.workflow
  (result, { workflow, approval := s.approvalAfter label })

/-- The approval comes as a resumption, and never as an operation of the coordinator. -/
def step (s : PlanStore) : Move → Option PlanStore
  | .resumeAfterApproval => some (resumeAfterApproval s).2
  | .rejectApproval => some (rejectApproval s).2
  | .operation .approve => none
  | .operation label => some (operation spec label s).2

def created {spec : WorkflowSpec} (order : TaskOrder spec) : PlanStore where
  workflow := WorkflowStore.created order
  approval := .pending

variable {spec} {s s' : PlanStore}

theorem resumeAfterApproval_state : (resumeAfterApproval s).2 =
    if s.approval = .pending ∨ s.approval = .approved then
      { workflow := s.workflow.setStatus .running .running, approval := .approved }
    else s := by
  simp only [resumeAfterApproval, Raising.read_bind, Raising.ensure_bind, Raising.update_bind,
    Raising.pure_apply, apply_ite Prod.snd]

theorem rejectApproval_state : (rejectApproval s).2 =
    if s.approval = .pending then
      { workflow := s.workflow.setStatus .cancelled .cancelled, approval := .rejected }
    else s := by
  simp only [rejectApproval, Raising.read_bind, Raising.ensure_bind, Raising.update_bind,
    Raising.pure_apply, apply_ite Prod.snd, Raising.ite_apply]
  split_ifs <;> simp_all

theorem step_operation {label : WorkflowStore.Label} (moved : step spec s (.operation label) = some s') :
    label ≠ .approve ∧ s'.workflow = (WorkflowStore.perform spec label s.workflow).2 ∧
      s'.approval = s.approvalAfter label := by
  cases label with
  | approve => cases moved
  | readyRuns | markRunning | completeChild | retryTask | pause | resume | cancel | runStatus =>
    obtain rfl := Option.some.inj moved
    exact ⟨by simp, rfl, rfl⟩

/-- A move sets the status of the workflow with that of the parent run, or is an operation of the
coordinator. -/
theorem step_workflow {move : Move} (moved : step spec s move = some s') :
    s'.workflow = s.workflow ∨
      (∃ status parentStatus, s'.workflow = s.workflow.setStatus status parentStatus) ∨
      ∃ label, move = .operation label ∧
        s'.workflow = (WorkflowStore.perform spec label s.workflow).2 := by
  cases move with
  | resumeAfterApproval =>
    obtain rfl := Option.some.inj moved
    rw [resumeAfterApproval_state]
    split
    · exact Or.inr (Or.inl ⟨_, _, rfl⟩)
    · exact Or.inl rfl
  | rejectApproval =>
    obtain rfl := Option.some.inj moved
    rw [rejectApproval_state]
    split
    · exact Or.inr (Or.inl ⟨_, _, rfl⟩)
    · exact Or.inl rfl
  | operation label => exact Or.inr (Or.inr ⟨label, rfl, (step_operation moved).2.1⟩)

end PlanStore

end Taroai.Workflow
