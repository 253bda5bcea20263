import Taroai.Lib.Table
import Taroai.Lifecycle.Holds

/-! The offboarding plan of a tenant and the calls that move it on. Each of them makes the
next plan from the plan that it has read. -/

namespace Taroai.Lifecycle

inductive TenantOffboardingState where
  | requested
  | exportPending
  | exportCompleted
  | deletionPending
  | deleted
  | blocked
deriving DecidableEq, Repr

def TenantOffboardingState.value : TenantOffboardingState → String
  | requested => "requested"
  | exportPending => "export_pending"
  | exportCompleted => "export_completed"
  | deletionPending => "deletion_pending"
  | deleted => "deleted"
  | blocked => "blocked"

inductive TenantOffboardingApprovalStatus where
  | pending
  | approved
  | notRequired
deriving DecidableEq, Repr

structure TenantOffboardingRequest where
  reason : String
  exportBeforeDelete : Bool
  categories : List DataCategory
  tenantId : String
  requestedByUserId : String
deriving DecidableEq, Repr

structure TenantOffboardingApprovalRequest where
  tenantId : String
  planId : String
  approvedByUserId : String
deriving DecidableEq, Repr

structure TenantOffboardingExportCompletionRequest where
  tenantId : String
  planId : String
  completedByUserId : String
  exportBundleId : String
  exportStorageObjectId : String
deriving DecidableEq, Repr

structure TenantOffboardingPlan where
  id : String
  tenantId : String
  requestedByUserId : String
  state : TenantOffboardingState
  approvalRequired : Bool
  approvalStatus : TenantOffboardingApprovalStatus
  nextStateAfterApproval : Option TenantOffboardingState
  exportBeforeDelete : Bool
  categories : List DataCategory
  reasonLength : Nat
  blockedReason : Option String
  blockingLegalHoldIds : List String
  deletionScope : List String
  approvedByUserId : Option String
  approvedAt : Option Time
  exportBundleId : Option String
  exportStorageObjectId : Option String
  exportCompletedByUserId : Option String
  exportCompletedAt : Option Time
  deletedByUserId : Option String
  deletedAt : Option Time
  createdAt : Time
  updatedAt : Time
deriving DecidableEq, Repr

/-- The rows of `tenant_offboarding_plans`, or the plans in memory. -/
abbrev Plans := Table TenantOffboardingPlan.id

def getPlan (plans : Plans) (tenantId planId : String) : Except Raised TenantOffboardingPlan :=
  match plans.get? planId with
  | some plan =>
    if plan.tenantId = tenantId then .ok plan
    else .error (.notFound s!"Tenant offboarding plan not found: {planId}")
  | none => .error (.notFound s!"Tenant offboarding plan not found: {planId}")

/-- `update_plan`: the whole plan is written over the one with its id, whatever that is. -/
def updatePlan (plan : TenantOffboardingPlan) (plans : Plans) : Except Raised Plans :=
  (getPlan plans plan.tenantId plan.id).map fun _ => plans.put plan

def dedupeHoldIds (holds : List LegalHold) : List String :=
  (holds.map (·.id)).foldl (fun ids id => if id ∈ ids then ids else ids ++ [id]) []

def tenantLegalHolds (backend : Backend) (legalHolds : List LegalHold) (tenantId : String)
    (categories : List DataCategory) (now : Time) : Except Raised (List LegalHold) :=
  gather (fun category =>
    listActiveLegalHolds backend legalHolds tenantId category .tenant (some tenantId) now)
    categories

/-- The plan of `create_plan`, made from the holds that its lookups have found. -/
def planFor (request : TenantOffboardingRequest) (planId : String)
    (blockingHolds : List LegalHold) (now : Time) : TenantOffboardingPlan :=
  let blocked : Bool := !blockingHolds.isEmpty
  { id := planId
    tenantId := request.tenantId
    requestedByUserId := request.requestedByUserId
    state := if blocked then .blocked else .requested
    approvalRequired := !blocked
    approvalStatus := if blocked then .notRequired else .pending
    nextStateAfterApproval :=
      if blocked then none
      else some (if request.exportBeforeDelete then .exportPending else .deletionPending)
    exportBeforeDelete := request.exportBeforeDelete
    categories := request.categories
    reasonLength := request.reason.length
    blockedReason := if blocked then some "active_legal_hold" else none
    blockingLegalHoldIds := dedupeHoldIds blockingHolds
    deletionScope := request.categories.map (·.value)
    approvedByUserId := none
    approvedAt := none
    exportBundleId := none
    exportStorageObjectId := none
    exportCompletedByUserId := none
    exportCompletedAt := none
    deletedByUserId := none
    deletedAt := none
    createdAt := now
    updatedAt := now }

namespace TenantOffboardingPlan

/-- What `approve_plan` makes of the plan it has read. -/
def approve (plan : TenantOffboardingPlan) (request : TenantOffboardingApprovalRequest)
    (now : Time) : Except Raised TenantOffboardingPlan :=
  match plan.nextStateAfterApproval with
  | some next =>
    if plan.state ≠ .requested ∨ plan.approvalStatus ≠ .pending then
      .error (.transitionError
        s!"Tenant offboarding plan cannot be approved from state {plan.state.value}")
    else .ok { plan with
      state := next
      approvalRequired := false
      approvalStatus := .approved
      approvedByUserId := some request.approvedByUserId
      approvedAt := some now
      updatedAt := now }
  | none => .error (.transitionError
      s!"Tenant offboarding plan cannot be approved from state {plan.state.value}")

/-- What `complete_export` makes of the plan it has read. -/
def completeExport (plan : TenantOffboardingPlan)
    (request : TenantOffboardingExportCompletionRequest) (now : Time) :
    Except Raised TenantOffboardingPlan :=
  if plan.state ≠ .exportPending then
    .error (.transitionError
      s!"Tenant offboarding export cannot be completed from state {plan.state.value}")
  else .ok { plan with
    state := .deletionPending
    exportBundleId := some request.exportBundleId
    exportStorageObjectId := some request.exportStorageObjectId
    exportCompletedByUserId := some request.completedByUserId
    exportCompletedAt := some now
    updatedAt := now }

end TenantOffboardingPlan

section Reading

variable {plans : Plans} {tenantId planId : String} {plan : TenantOffboardingPlan}

theorem getPlan_eq_ok : getPlan plans tenantId planId = .ok plan ↔
    plans.get? planId = some plan ∧ plan.tenantId = tenantId := by
  unfold getPlan
  cases found : plans.get? planId with
  | none => simp
  | some there =>
    by_cases own : there.tenantId = tenantId
    · simp only [own, if_true, Except.ok.injEq, Option.some.injEq]
      constructor
      · rintro rfl
        exact ⟨rfl, own⟩
      · exact And.left
    · simp only [own, if_false, reduceCtorEq, Option.some.injEq, false_iff, not_and]
      rintro rfl
      exact own

theorem id_of_getPlan (found : getPlan plans tenantId planId = .ok plan) : plan.id = planId :=
  Table.key_of_get? (getPlan_eq_ok.mp found).1

theorem updatePlan_of_found {next : TenantOffboardingPlan}
    (found : getPlan plans tenantId planId = .ok plan) (tenant : next.tenantId = plan.tenantId)
    (same : next.id = plan.id) : updatePlan next plans = .ok (plans.put next) := by
  have own := (getPlan_eq_ok.mp found).2
  unfold updatePlan
  rw [tenant, same, id_of_getPlan found, own, found]
  rfl

theorem getPlan_put {next : TenantOffboardingPlan} (tenant : next.tenantId = tenantId) :
    getPlan (plans.put next) tenantId next.id = .ok next :=
  getPlan_eq_ok.mpr ⟨Table.get?_put_self plans next, tenant⟩

end Reading

end Taroai.Lifecycle
