import Taroai.Lifecycle.HoldsKept

/-! The calls on one offboarding plan, step by step in any order. A call reads the plan and tests
its state; what it makes of the plan it writes later, over whatever is stored by then. An
execution looks up the holds, deletes in several steps, and writes the plan at its end. -/

namespace Taroai.Lifecycle

inductive OffboardingRequest where
  | create (request : TenantOffboardingRequest)
  | approve (request : TenantOffboardingApprovalRequest)
  | completeExport (request : TenantOffboardingExportCompletionRequest)
  | execute (request : TenantOffboardingDeletionRequest)
deriving DecidableEq, Repr

/-- Where a call is: with the plan that it has read, and the plan that it is about to write. -/
inductive Progress where
  | started
  | checked (blockingHolds : List LegalHold)
  | writing (plan next : TenantOffboardingPlan)
  | looking (plan : TenantOffboardingPlan)
  | deletingMemory (plan : TenantOffboardingPlan) (candidates : List StorageObject)
  | deletingShortTermMemory (plan : TenantOffboardingPlan) (candidates : List StorageObject)
  | deletingKnowledge (plan : TenantOffboardingPlan) (candidates : List StorageObject)
  | deletingObjects (plan : TenantOffboardingPlan) (remaining : List StorageObject)
  | returned
  | raised (error : Raised)
deriving DecidableEq, Repr

def Progress.deleting? : Progress → Option TenantOffboardingPlan
  | .deletingMemory plan _ | .deletingShortTermMemory plan _ | .deletingKnowledge plan _
  | .deletingObjects plan _ => some plan
  | _ => none

structure OffboardingCall where
  request : OffboardingRequest
  progress : Progress
deriving DecidableEq, Repr

/-- What is recorded of the plan: the writes of its calls, and the steps that delete. -/
inductive Event where
  | created
  | approved
  | exported
  | begun
  | deletion
  | blocked
  | deleted
deriving DecidableEq, Repr

structure Offboarding where
  system : System
  planId : String
  calls : List OffboardingCall
  log : List Event

inductive Label where
  | begin (request : OffboardingRequest)
  | advance (call : Nat) (fails : Bool) (now : Time)
  | meanwhile (call : Call)

namespace OffboardingRequest

def isFor (request : OffboardingRequest) (planId : String) : Bool :=
  match request with
  | .create _ => true
  | .approve request => request.planId = planId
  | .completeExport request => request.planId = planId
  | .execute request => request.planId = planId

def written (request : OffboardingRequest) (next : TenantOffboardingPlan) : Event :=
  match request with
  | .create _ => .created
  | .approve _ => .approved
  | .completeExport _ => .exported
  | .execute _ => if next.state = .blocked then .blocked else .deleted

end OffboardingRequest

def Call.isBeside : Call → Bool
  | .createLegalHold _ | .releaseLegalHold .. | .write _ | .cleanup .. => true
  | .createPlan .. | .approvePlan .. | .completeExport .. | .execute .. => false

namespace Offboarding

def stored? (s : Offboarding) : Option TenantOffboardingPlan := s.system.plans.get? s.planId

def readStep (s : Offboarding) (request : OffboardingRequest) (now : Time) : Progress :=
  match request with
  | .create request =>
    match tenantLegalHolds s.system.policyBackend s.system.legalHolds request.tenantId
        request.categories now with
    | .ok blockingHolds => .checked blockingHolds
    | .error e => .raised e
  | .approve request =>
    match getPlan s.system.plans request.tenantId request.planId with
    | .ok plan =>
      match plan.approve request now with
      | .ok next => .writing plan next
      | .error e => .raised e
    | .error e => .raised e
  | .completeExport request =>
    match getPlan s.system.plans request.tenantId request.planId with
    | .ok plan =>
      match plan.completeExport request now with
      | .ok next => .writing plan next
      | .error e => .raised e
    | .error e => .raised e
  | .execute request =>
    match getPlan s.system.plans request.tenantId request.planId with
    | .ok plan =>
      if plan.state ≠ .deletionPending then
        .raised (.transitionError
          s!"Tenant offboarding deletion cannot be started from state {plan.state.value}")
      else .looking plan
    | .error e => .raised e

def lookStep (s : Offboarding) (request : TenantOffboardingDeletionRequest)
    (plan : TenantOffboardingPlan) : Progress × List Event :=
  match s.system.lookups plan request.now with
  | .ok (heldObjects, categoryHolds) =>
    if heldObjects ≠ [] ∨ categoryHolds ≠ [] then
      (.writing plan (plan.block (dedupeHoldIds (heldObjects.flatMap (·.2) ++ categoryHolds))
        request.now), [])
    else (.deletingMemory plan (s.system.storageDeletionCandidates plan), [.begun])
  | .error e => (.raised e, [])

def deleteStep (s : Offboarding) (request : TenantOffboardingDeletionRequest) (fails : Bool) :
    Progress → System × Progress × List Event
  | .deletingMemory plan candidates =>
    ((deleteLongTermMemory plan s.system).2, .deletingShortTermMemory plan candidates, [.deletion])
  | .deletingShortTermMemory plan candidates =>
    ((deleteShortTermMemory plan s.system).2, .deletingKnowledge plan candidates, [.deletion])
  | .deletingKnowledge plan candidates =>
    ((deleteKnowledge plan s.system).2, .deletingObjects plan candidates, [.deletion])
  | .deletingObjects plan (object :: rest) =>
    match deleteObject (fun _ => fails) request.tenantId request.now object s.system with
    | (.ok _, system) => (system, .deletingObjects plan rest, [.deletion])
    | (.error e, system) => (system, .raised e, [])
  | .deletingObjects plan [] =>
    (s.system, .writing plan (plan.markDeleted request.deletedByUserId request.now), [])
  | progress => (s.system, progress, [])

def writeStep (s : Offboarding) (request : OffboardingRequest) (next : TenantOffboardingPlan) :
    System × Progress × List Event :=
  match updatePlan next s.system.plans with
  | .ok plans => ({ s.system with plans := plans }, .returned, [request.written next])
  | .error e => (s.system, .raised e, [])

/-- One step of a call; none of a call that is over, or that would make a second plan. -/
def advanceCall (s : Offboarding) (fails : Bool) (now : Time) (call : OffboardingCall) :
    Option (System × Progress × List Event) :=
  match call.request, call.progress with
  | _, .returned | _, .raised _ => none
  | request, .started => some (s.system, s.readStep request now, [])
  | .create request, .checked blockingHolds =>
    if s.stored?.isSome then none
    else some ({ s.system with
      plans := s.system.plans.put (planFor request s.planId blockingHolds now) }, .returned,
      [.created])
  | _, .checked _ => none
  | request, .writing _ next => some (s.writeStep request next)
  | .execute request, .looking plan =>
    let (progress, events) := s.lookStep request plan
    some (s.system, progress, events)
  | .execute request, progress => some (s.deleteStep request fails progress)
  | _, _ => none

def step (s : Offboarding) : Label → Option Offboarding
  | .begin request =>
    if request.isFor s.planId = true then some { s with calls := s.calls ++ [⟨request, .started⟩] }
    else none
  | .advance i fails now => do
    let call ← s.calls[i]?
    let (system, progress, events) ← s.advanceCall fails now call
    return { s with
      system := system
      calls := s.calls.set i { call with progress := progress }
      log := s.log ++ events }
  | .meanwhile call =>
    if call.isBeside = true then some { s with system := s.system.perform call } else none

def Cleared (log : List Event) (exportBeforeDelete : Bool) : Prop :=
  ∃ before after, log = before ++ .approved :: after ∧
    (exportBeforeDelete = true → .exported ∈ after)

structure Lawful (s : Offboarding) (label : Label) (s' : Offboarding) : Prop where
  cleared : ∀ i fails now, label = .advance i fails now →
    (∃ item, s.system.Stored item ∧ ¬s'.system.Stored item) →
    ∃ plan, s.stored? = some plan ∧ Cleared s.log plan.exportBeforeDelete
  final : ∀ plan, s.stored? = some plan → plan.state = .blocked ∨ plan.state = .deleted →
    ∃ next, s'.stored? = some next ∧ next.state = plan.state
  unblocked : .deletion ∈ s'.log → ∀ plan, s'.stored? = some plan → plan.state ≠ .blocked
  resumed : ∀ i fails now call request plan object rest e, label = .advance i fails now →
    s.calls[i]? = some call → call.request = .execute request →
    call.progress = .deletingObjects plan (object :: rest) →
    (deleteObject (fun _ => fails) request.tenantId request.now object s.system).1 = .error e →
    ∃ stored, s'.stored? = some stored ∧ stored.state = .deletionPending ∧
      ∀ again : TenantOffboardingDeletionRequest, again.tenantId = stored.tenantId →
        again.planId = s'.planId → s'.system.lookups stored again.now = .ok ([], []) →
        ∀ item, (execute (fun _ => false) again s'.system).2.Stored item ↔
          s'.system.Stored item ∧ ¬s'.system.InScope stored item

def Unmoved (s : Offboarding) (plan : TenantOffboardingPlan) : Prop :=
  ∀ stored ∈ s.stored?, stored.state = plan.state

instance (s : Offboarding) (plan : TenantOffboardingPlan) : Decidable (s.Unmoved plan) :=
  inferInstanceAs (Decidable (∀ stored ∈ s.stored?, stored.state = plan.state))

/-- A call finds the plan in the state in which it has read it: when it writes it, when its
lookups have found no hold, and when it is interrupted. It writes it as blocked only before an
execution has found no hold. -/
def CallFinds (s : Offboarding) (fails : Bool) (call : OffboardingCall) : Prop :=
  match call.progress, call.request with
  | .writing plan next, _ => s.Unmoved plan ∧ (next.state = .blocked → .begun ∉ s.log)
  | .looking plan, .execute request =>
    s.system.lookups plan request.now = .ok ([], []) → s.Unmoved plan
  | .deletingObjects plan (object :: _), .execute request =>
    (deleteObject (fun _ => fails) request.tenantId request.now object s.system).1 ≠ .ok () →
      s.Unmoved plan
  | _, _ => True

instance (s : Offboarding) (fails : Bool) : (call : OffboardingCall) →
    Decidable (s.CallFinds fails call)
  | ⟨_, .writing plan next⟩ =>
    inferInstanceAs (Decidable (s.Unmoved plan ∧ (next.state = .blocked → .begun ∉ s.log)))
  | ⟨.execute request, .looking plan⟩ => inferInstanceAs
    (Decidable (s.system.lookups plan request.now = .ok ([], []) → s.Unmoved plan))
  | ⟨.execute request, .deletingObjects plan (object :: _)⟩ => inferInstanceAs
    (Decidable ((deleteObject (fun _ => fails) request.tenantId request.now object s.system).1 ≠
      .ok () → s.Unmoved plan))
  | ⟨.create _, .looking _⟩ | ⟨.approve _, .looking _⟩ | ⟨.completeExport _, .looking _⟩
  | ⟨.create _, .deletingObjects _ (_ :: _)⟩ | ⟨.approve _, .deletingObjects _ (_ :: _)⟩
  | ⟨.completeExport _, .deletingObjects _ (_ :: _)⟩ | ⟨_, .deletingObjects _ []⟩
  | ⟨_, .started⟩ | ⟨_, .checked _⟩ | ⟨_, .deletingMemory _ _⟩
  | ⟨_, .deletingShortTermMemory _ _⟩ | ⟨_, .deletingKnowledge _ _⟩ | ⟨_, .returned⟩
  | ⟨_, .raised _⟩ => isTrue trivial

def FindsPlan (s : Offboarding) : Label → Prop
  | .advance i fails _ => ∀ call ∈ s.calls[i]?, s.CallFinds fails call
  | _ => True

instance (s : Offboarding) : (label : Label) → Decidable (s.FindsPlan label)
  | .advance i fails _ => inferInstanceAs (Decidable (∀ call ∈ s.calls[i]?, s.CallFinds fails call))
  | .begin _ => isTrue trivial
  | .meanwhile _ => isTrue trivial

structure Justified (log : List Event) (plan : TenantOffboardingPlan) : Prop where
  requested : plan.state = .requested → plan.nextStateAfterApproval =
    some (if plan.exportBeforeDelete then .exportPending else .deletionPending)
  exporting : plan.state = .exportPending → .approved ∈ log
  deleting : plan.state = .deletionPending → Cleared log plan.exportBeforeDelete

structure Read (s : Offboarding) (plan : TenantOffboardingPlan) : Prop where
  justified : Justified s.log plan
  id : plan.id = s.planId
  stored : ∃ stored, s.stored? = some stored ∧ stored.tenantId = plan.tenantId ∧
    stored.exportBeforeDelete = plan.exportBeforeDelete

structure Succeeds (request : OffboardingRequest) (plan next : TenantOffboardingPlan) : Prop where
  id : next.id = plan.id
  tenant : next.tenantId = plan.tenantId
  exportFirst : next.exportBeforeDelete = plan.exportBeforeDelete
  state : match request with
    | .create _ => False
    | .approve _ => plan.state = .requested ∧
      next.state = if plan.exportBeforeDelete then .exportPending else .deletionPending
    | .completeExport _ => plan.state = .exportPending ∧ next.state = .deletionPending
    | .execute _ => plan.state = .deletionPending ∧ (next.state = .blocked ∨ next.state = .deleted)

def Fits (s : Offboarding) (call : OffboardingCall) : Prop :=
  call.request.isFor s.planId = true ∧
    match call.progress with
    | .writing plan next => s.Read plan ∧ Succeeds call.request plan next
    | .looking plan | .deletingMemory plan _ | .deletingShortTermMemory plan _
    | .deletingKnowledge plan _ | .deletingObjects plan _ =>
      s.Read plan ∧ plan.state = .deletionPending
    | .started | .checked _ | .returned | .raised _ => True

structure Inv (s : Offboarding) : Prop where
  stored : ∀ plan, s.stored? = some plan → Justified s.log plan
  calls : ∀ call ∈ s.calls, s.Fits call

inductive Moved (s : Offboarding) (call : OffboardingCall) :
    System → Progress → List Event → Prop where
  | stayed {progress : Progress} (fits : s.Fits { call with progress := progress })
    (idle : progress.deleting? = none) : Moved s call s.system progress []
  | created (plan : TenantOffboardingPlan) (absent : s.stored? = none) (id : plan.id = s.planId)
    (justified : Justified s.log plan) :
    Moved s call { s.system with plans := s.system.plans.put plan } .returned [.created]
  | begun (request : TenantOffboardingDeletionRequest) (plan : TenantOffboardingPlan)
    (candidates : List StorageObject) (execution : call.request = .execute request)
    (looking : call.progress = .looking plan)
    (free : s.system.lookups plan request.now = .ok ([], [])) :
    Moved s call s.system (.deletingMemory plan candidates) [.begun]
  | deletion {system : System} {progress : Progress} (plan : TenantOffboardingPlan)
    (before : call.progress.deleting? = some plan) (after : progress.deleting? = some plan)
    (deletes : System.Deletes (fun _ => True) s.system system) :
    Moved s call system progress [.deletion]
  | wrote (plan next : TenantOffboardingPlan) (writing : call.progress = .writing plan next) :
    Moved s call { s.system with plans := s.system.plans.put next } .returned
      [call.request.written next]

section Steps

variable {s s' : Offboarding}

theorem Cleared.append {log : List Event} {exportBeforeDelete : Bool}
    (cleared : Cleared log exportBeforeDelete) (events : List Event) :
    Cleared (log ++ events) exportBeforeDelete := by
  obtain ⟨before, after, rfl, exported⟩ := cleared
  exact ⟨before, after ++ events, by simp, fun first => List.mem_append_left _ (exported first)⟩

theorem Justified.append {log : List Event} {plan : TenantOffboardingPlan}
    (justified : Justified log plan) (events : List Event) : Justified (log ++ events) plan where
  requested := justified.requested
  exporting state := List.mem_append_left _ (justified.exporting state)
  deleting state := (justified.deleting state).append events

theorem justified_next {request : OffboardingRequest} {plan next : TenantOffboardingPlan}
    {log : List Event} (justified : Justified log plan) (succeeds : Succeeds request plan next) :
    Justified (log ++ [request.written next]) next := by
  obtain ⟨-, -, exportFirst, state⟩ := succeeds
  cases request with
  | create => exact state.elim
  | approve request =>
    obtain ⟨-, after⟩ := state
    refine ⟨fun there => ?_, fun _ => List.mem_append_right _ (List.mem_singleton_self _),
      fun there => ⟨log, [], rfl, fun first => ?_⟩⟩
    · rw [after] at there
      split at there <;> cases there
    · rw [exportFirst] at first
      rw [after, if_pos first] at there
      cases there
  | completeExport request =>
    obtain ⟨before, after⟩ := state
    refine ⟨fun there => ?_, fun there => ?_, fun _ => ?_⟩
    · rw [after] at there
      cases there
    · rw [after] at there
      cases there
    · obtain ⟨first, later, rfl⟩ := List.append_of_mem (justified.exporting before)
      exact ⟨first, later ++ [.exported], by simp [OffboardingRequest.written], fun _ => by simp⟩
  | execute request =>
    obtain ⟨-, blocked | deleted⟩ := state
    · exact ⟨fun there => (by rw [blocked] at there; cases there),
        fun there => (by rw [blocked] at there; cases there),
        fun there => (by rw [blocked] at there; cases there)⟩
    · exact ⟨fun there => (by rw [deleted] at there; cases there),
        fun there => (by rw [deleted] at there; cases there),
        fun there => (by rw [deleted] at there; cases there)⟩

theorem justified_planFor (log : List Event) (request : TenantOffboardingRequest) (planId : String)
    (blockingHolds : List LegalHold) (now : Time) :
    Justified log (planFor request planId blockingHolds now) := by
  unfold planFor
  cases blockingHolds with
  | nil => exact ⟨fun _ => rfl, fun there => (by cases there), fun there => (by cases there)⟩
  | cons hold rest =>
    exact ⟨fun there => (by cases there), fun there => (by cases there),
      fun there => (by cases there)⟩

theorem read_of_getPlan (inv : s.Inv) {tenantId planId : String} {plan : TenantOffboardingPlan}
    (same : planId = s.planId) (found : getPlan s.system.plans tenantId planId = .ok plan) :
    s.Read plan := by
  have id := id_of_getPlan found
  obtain ⟨there, -⟩ := getPlan_eq_ok.mp found
  subst same
  exact ⟨inv.stored plan there, id, plan, there, rfl, rfl⟩

theorem succeeds_approve {plan next : TenantOffboardingPlan} {log : List Event}
    {request : TenantOffboardingApprovalRequest} {now : Time} (justified : Justified log plan)
    (approved : plan.approve request now = .ok next) : Succeeds (.approve request) plan next := by
  unfold TenantOffboardingPlan.approve at approved
  split at approved
  · next state following =>
    split at approved
    · cases approved
    · next open_ =>
      cases approved
      rw [not_or, not_not, not_not] at open_
      have expected := justified.requested open_.1
      rw [following] at expected
      exact ⟨rfl, rfl, rfl, open_.1, Option.some.inj expected⟩
  · cases approved

theorem succeeds_completeExport {plan next : TenantOffboardingPlan}
    {request : TenantOffboardingExportCompletionRequest} {now : Time}
    (completed : plan.completeExport request now = .ok next) :
    Succeeds (.completeExport request) plan next := by
  unfold TenantOffboardingPlan.completeExport at completed
  split at completed
  · cases completed
  · next exporting =>
    cases completed
    exact ⟨rfl, rfl, rfl, not_not.mp exporting, rfl⟩

theorem readStep_moved (inv : s.Inv) {call : OffboardingCall} (now : Time)
    (own : call.request.isFor s.planId = true) :
    Moved s call s.system (s.readStep call.request now) [] := by
  obtain ⟨request, progress⟩ := call
  unfold readStep
  cases request with
  | create request =>
    dsimp only
    split
    · exact .stayed ⟨own, trivial⟩ rfl
    · exact .stayed ⟨own, trivial⟩ rfl
  | approve request =>
    dsimp only
    split
    · next plan found =>
      split
      · next next approved =>
        have read := read_of_getPlan inv (of_decide_eq_true own) found
        exact .stayed ⟨own, read, succeeds_approve read.justified approved⟩ rfl
      · exact .stayed ⟨own, trivial⟩ rfl
    · exact .stayed ⟨own, trivial⟩ rfl
  | completeExport request =>
    dsimp only
    split
    · next plan found =>
      split
      · next next completed =>
        exact .stayed ⟨own, read_of_getPlan inv (of_decide_eq_true own) found,
          succeeds_completeExport completed⟩ rfl
      · exact .stayed ⟨own, trivial⟩ rfl
    · exact .stayed ⟨own, trivial⟩ rfl
  | execute request =>
    dsimp only
    split
    · next plan found =>
      split
      · exact .stayed ⟨own, trivial⟩ rfl
      · next pending =>
        exact .stayed ⟨own, read_of_getPlan inv (of_decide_eq_true own) found, not_not.mp pending⟩ rfl
    · exact .stayed ⟨own, trivial⟩ rfl

theorem lookStep_moved {call : OffboardingCall} {request : TenantOffboardingDeletionRequest}
    {plan : TenantOffboardingPlan} (execution : call.request = .execute request)
    (looking : call.progress = .looking plan) (fits : s.Fits call) :
    Moved s call s.system (s.lookStep request plan).1 (s.lookStep request plan).2 := by
  obtain ⟨request', progress⟩ := call
  cases execution
  cases looking
  obtain ⟨own, read, pending⟩ := fits
  unfold lookStep
  split
  · next heldObjects categoryHolds asked =>
    split
    · exact .stayed ⟨own, read, rfl, rfl, rfl, pending, .inl rfl⟩ rfl
    · next free =>
      rw [not_or, not_not, not_not] at free
      obtain ⟨rfl, rfl⟩ := free
      exact .begun request plan _ rfl rfl asked
  · exact .stayed ⟨own, trivial⟩ rfl

theorem writeStep_moved {call : OffboardingCall} {plan next : TenantOffboardingPlan}
    (writing : call.progress = .writing plan next) (fits : s.Fits call) :
    Moved s call (s.writeStep call.request next).1 (s.writeStep call.request next).2.1
      (s.writeStep call.request next).2.2 := by
  unfold writeStep updatePlan
  obtain ⟨request, progress⟩ := call
  cases writing
  obtain ⟨own, read, succeeds⟩ := fits
  obtain ⟨stored, there, tenant, -⟩ := read.stored
  have found : getPlan s.system.plans next.tenantId next.id = .ok stored :=
    getPlan_eq_ok.mpr ⟨by rw [succeeds.id, read.id]; exact there, tenant.trans succeeds.tenant.symm⟩
  rw [found]
  exact .wrote plan next rfl

theorem deleteStep_moved {call : OffboardingCall} {request : TenantOffboardingDeletionRequest}
    (plan : TenantOffboardingPlan) (fails : Bool) (execution : call.request = .execute request)
    (deleting : call.progress.deleting? = some plan) (fits : s.Fits call) :
    Moved s call (s.deleteStep request fails call.progress).1
      (s.deleteStep request fails call.progress).2.1
      (s.deleteStep request fails call.progress).2.2 := by
  obtain ⟨request', progress⟩ := call
  cases execution
  cases progress with
  | deletingMemory plan' candidates =>
    exact .deletion plan' rfl rfl
      ((deletes_deleteLongTermMemory plan' s.system).mono fun _ _ => trivial)
  | deletingShortTermMemory plan' candidates =>
    exact .deletion plan' rfl rfl
      ((deletes_deleteShortTermMemory plan' s.system).mono fun _ _ => trivial)
  | deletingKnowledge plan' candidates =>
    exact .deletion plan' rfl rfl
      ((deletes_deleteKnowledge plan' s.system).mono fun _ _ => trivial)
  | deletingObjects plan' remaining =>
    obtain ⟨own, read, pending⟩ := fits
    cases remaining with
    | nil => exact .stayed ⟨own, read, rfl, rfl, rfl, pending, .inr rfl⟩ rfl
    | cons object rest =>
      have deletes := (deletes_deleteObject (fun _ => fails) request.tenantId request.now object
        s.system).mono (Q := fun _ => True) fun _ _ => trivial
      dsimp only [deleteStep]
      split
      · next system ran =>
        rw [ran] at deletes
        exact .deletion plan' rfl rfl deletes
      · next e system ran =>
        have same : system = s.system := by
          unfold deleteObject at ran
          split at ran
          · cases ran
            rfl
          · split at ran
            · cases ran
            · cases ran
              rfl
        rw [same]
        exact .stayed ⟨own, trivial⟩ rfl
  | started => cases deleting
  | checked => cases deleting
  | writing => cases deleting
  | looking => cases deleting
  | returned => cases deleting
  | raised => cases deleting

theorem advanceCall_moved (inv : s.Inv) {call : OffboardingCall} (fits : s.Fits call) {fails : Bool}
    {now : Time} {system : System} {progress : Progress} {events : List Event}
    (moved : s.advanceCall fails now call = some (system, progress, events)) :
    Moved s call system progress events := by
  obtain ⟨request, before⟩ := call
  unfold advanceCall at moved
  cases before with
  | started =>
    cases moved
    exact readStep_moved inv now fits.1
  | checked blockingHolds =>
    cases request with
    | create request =>
      dsimp only at moved
      split at moved
      · cases moved
      · next absent =>
        cases moved
        exact .created _ (by simpa using absent) rfl (justified_planFor _ request s.planId _ now)
    | approve => cases moved
    | completeExport => cases moved
    | execute => cases moved
  | writing plan next =>
    have result := Option.some.inj moved
    have moves := writeStep_moved rfl fits
    dsimp only at result moves
    rw [result] at moves
    exact moves
  | looking plan =>
    cases request with
    | execute request =>
      cases moved
      exact lookStep_moved rfl rfl fits
    | create => cases moved
    | approve => cases moved
    | completeExport => cases moved
  | deletingMemory plan _ | deletingShortTermMemory plan _ | deletingKnowledge plan _
  | deletingObjects plan _ =>
    cases request with
    | execute request =>
      have result := Option.some.inj moved
      have moves := deleteStep_moved plan fails rfl rfl fits
      dsimp only at result moves
      rw [result] at moves
      exact moves
    | create => cases moved
    | approve => cases moved
    | completeExport => cases moved
  | returned => cases moved
  | raised => cases moved

theorem step_cases (inv : s.Inv) {label : Label} (moved : s.step label = some s') :
    (∃ request, label = .begin request ∧ request.isFor s.planId = true ∧
      s' = { s with calls := s.calls ++ [⟨request, .started⟩] }) ∨
    (∃ call, label = .meanwhile call ∧ call.isBeside = true ∧
      s' = { s with system := s.system.perform call }) ∨
    ∃ i fails now call system progress events, label = .advance i fails now ∧
      s.calls[i]? = some call ∧ s.Fits call ∧
      s.advanceCall fails now call = some (system, progress, events) ∧
      Moved s call system progress events ∧
      s' = { s with
        system := system
        calls := s.calls.set i { call with progress := progress }
        log := s.log ++ events } := by
  cases label with
  | begin request =>
    unfold step at moved
    dsimp only at moved
    split at moved
    · next own =>
      cases moved
      exact .inl ⟨request, rfl, own, rfl⟩
    · cases moved
  | meanwhile call =>
    unfold step at moved
    dsimp only at moved
    split at moved
    · next beside =>
      cases moved
      exact .inr (.inl ⟨call, rfl, beside, rfl⟩)
    · cases moved
  | advance i fails now =>
    obtain ⟨call, listed, rest⟩ := Option.bind_eq_some_iff.mp moved
    obtain ⟨⟨system, progress, events⟩, advanced, after⟩ := Option.bind_eq_some_iff.mp rest
    cases after
    have fits := inv.calls call (List.mem_of_getElem? listed)
    exact .inr (.inr ⟨i, fails, now, call, system, progress, events, rfl, listed, fits, advanced,
      advanceCall_moved inv fits advanced, rfl⟩)

theorem plans_cleanup (fails : StorageObject → Bool) (request : StorageLifecycleCleanupRequest)
    (system : System) : (cleanupExpiredObjects fails request system).2.plans = system.plans := by
  unfold cleanupExpiredObjects
  cases listed :
      system.listExpiredForRetention request.tenantId request.now request.workspaceId with
  | error e => rw [Raising.bind_of_error (by rw [Raising.consult_apply, listed])]
  | ok expired =>
    rw [Raising.bind_of_ok (by rw [Raising.consult_apply, listed])]
    exact (deletes_cleanupObjects fails request expired system).plans

theorem plans_beside {call : Call} (beside : call.isBeside = true) (system : System) :
    (system.perform call).plans = system.plans := by
  cases call with
  | createLegalHold => rfl
  | releaseLegalHold =>
    unfold System.perform
    dsimp only
    split <;> rfl
  | write item =>
    cases item with
    | object o =>
      unfold System.perform System.write
      dsimp only
      split <;> rfl
    | memory => rfl
    | shortTermMemory => rfl
    | base => rfl
    | document => rfl
  | cleanup fails request => exact plans_cleanup fails request system
  | createPlan => cases beside
  | approvePlan => cases beside
  | completeExport => cases beside
  | execute => cases beside

structure Extends (s s' : Offboarding) : Prop where
  planId : s'.planId = s.planId
  log : ∃ events, s'.log = s.log ++ events
  stored : ∀ plan, s.stored? = some plan → ∃ next, s'.stored? = some next ∧
    next.tenantId = plan.tenantId ∧ next.exportBeforeDelete = plan.exportBeforeDelete

theorem Read.extends {plan : TenantOffboardingPlan} (read : s.Read plan) (more : s.Extends s') :
    s'.Read plan := by
  obtain ⟨events, log⟩ := more.log
  obtain ⟨stored, there, tenant, exportFirst⟩ := read.stored
  obtain ⟨next, after, tenant', exportFirst'⟩ := more.stored stored there
  refine ⟨?_, read.id.trans more.planId.symm, next, after, tenant'.trans tenant,
    exportFirst'.trans exportFirst⟩
  rw [log]
  exact read.justified.append events

theorem Fits.extends {call : OffboardingCall} (fits : s.Fits call) (more : s.Extends s') :
    s'.Fits call := by
  obtain ⟨request, progress⟩ := call
  obtain ⟨own, rest⟩ := fits
  refine ⟨by rw [more.planId]; exact own, ?_⟩
  cases progress with
  | writing => exact ⟨rest.1.extends more, rest.2⟩
  | looking => exact ⟨rest.1.extends more, rest.2⟩
  | deletingMemory => exact ⟨rest.1.extends more, rest.2⟩
  | deletingShortTermMemory => exact ⟨rest.1.extends more, rest.2⟩
  | deletingKnowledge => exact ⟨rest.1.extends more, rest.2⟩
  | deletingObjects => exact ⟨rest.1.extends more, rest.2⟩
  | started => trivial
  | checked => trivial
  | returned => trivial
  | raised => trivial

theorem Fits.deleting {call : OffboardingCall} {plan : TenantOffboardingPlan} (fits : s.Fits call)
    (deleting : call.progress.deleting? = some plan) :
    s.Read plan ∧ plan.state = .deletionPending := by
  obtain ⟨request, progress⟩ := call
  cases progress with
  | deletingMemory | deletingShortTermMemory | deletingKnowledge | deletingObjects =>
    cases deleting
    exact fits.2
  | started | checked | writing | looking | returned | raised => cases deleting

theorem fits_deleting {call : OffboardingCall} {plan : TenantOffboardingPlan}
    (own : call.request.isFor s.planId = true) (read : s.Read plan)
    (pending : plan.state = .deletionPending) (deleting : call.progress.deleting? = some plan) :
    s.Fits call := by
  obtain ⟨request, progress⟩ := call
  cases progress with
  | deletingMemory | deletingShortTermMemory | deletingKnowledge | deletingObjects =>
    cases deleting
    exact ⟨own, read, pending⟩
  | started | checked | writing | looking | returned | raised => cases deleting

/-- The state after a step of the `i`-th call. -/
def after (s : Offboarding) (i : Nat) (call : OffboardingCall) (system : System)
    (progress : Progress) (events : List Event) : Offboarding :=
  { s with
    system := system
    calls := s.calls.set i { call with progress := progress }
    log := s.log ++ events }

theorem stored_put {plan : TenantOffboardingPlan} (id : plan.id = s.planId) :
    ({ s.system with plans := s.system.plans.put plan } : System).plans.get? s.planId =
      some plan := by
  rw [← id]
  exact Table.get?_put_self _ _

theorem Moved.extends {call : OffboardingCall} {system : System} {progress : Progress}
    {events : List Event} (moves : Moved s call system progress events) (inv : s.Inv)
    (fits : s.Fits call) (i : Nat) :
    s.Extends (s.after i call system progress events) ∧
      (∀ plan, (s.after i call system progress events).stored? = some plan →
        Justified (s.log ++ events) plan) ∧
      (s.after i call system progress events).Fits { call with progress := progress } := by
  have same (system' : System) (plans : system'.plans = s.system.plans) (progress' : Progress)
      (events' : List Event) : s.Extends (s.after i call system' progress' events') ∧
        ∀ plan, (s.after i call system' progress' events').stored? = some plan →
          Justified (s.log ++ events') plan := by
    have stored : (s.after i call system' progress' events').stored? = s.stored? := by
      unfold stored?
      exact congrArg (fun plans => plans.get? s.planId) plans
    constructor
    · exact ⟨rfl, ⟨events', rfl⟩, fun plan there => ⟨plan, stored.trans there, rfl, rfl⟩⟩
    · intro plan there
      exact (inv.stored plan (stored.symm.trans there)).append events'
  cases moves with
  | stayed progressFits idle =>
    obtain ⟨more, justified⟩ := same s.system rfl progress []
    exact ⟨more, justified, progressFits.extends more⟩
  | created plan absent id justified =>
    have there := stored_put (s := s) id
    refine ⟨⟨rfl, ⟨_, rfl⟩, fun old present => ?_⟩, fun next found => ?_, fits.1, trivial⟩
    · rw [absent] at present
      cases present
    · obtain rfl : plan = next := Option.some.inj (there.symm.trans found)
      exact justified.append _
  | begun request plan candidates execution looking free =>
    obtain ⟨more, justified⟩ := same s.system rfl (.deletingMemory plan candidates) [.begun]
    refine ⟨more, justified, fits.1, ?_⟩
    obtain ⟨request', before⟩ := call
    cases looking
    exact ⟨fits.2.1.extends more, fits.2.2⟩
  | deletion plan before deleting deletes =>
    obtain ⟨more, justified⟩ := same system deletes.plans progress [.deletion]
    obtain ⟨read, pending⟩ := fits.deleting before
    exact ⟨more, justified, fits_deleting fits.1 (read.extends more) pending deleting⟩
  | wrote plan next writing =>
    obtain ⟨request, before⟩ := call
    cases writing
    obtain ⟨own, read, succeeds⟩ := fits
    have there := stored_put (s := s) (succeeds.id.trans read.id)
    obtain ⟨stored, present, tenant, exportFirst⟩ := read.stored
    refine ⟨⟨rfl, ⟨_, rfl⟩, fun old found => ⟨next, there, ?_⟩⟩, fun other found => ?_, own, trivial⟩
    · obtain rfl : stored = old := Option.some.inj (present.symm.trans found)
      exact ⟨succeeds.tenant.trans tenant.symm, succeeds.exportFirst.trans exportFirst.symm⟩
    · obtain rfl : next = other := Option.some.inj (there.symm.trans found)
      exact justified_next read.justified succeeds

theorem inv_step (inv : s.Inv) {label : Label} (moved : s.step label = some s') : s'.Inv := by
  obtain ⟨request, rfl, own, rfl⟩ | ⟨call, rfl, beside, rfl⟩ |
    ⟨i, fails, now, call, system, progress, events, rfl, listed, fits, -, moves, rfl⟩ :=
    step_cases inv moved
  · have more : s.Extends { s with calls := s.calls ++ [⟨request, .started⟩] } :=
      ⟨rfl, ⟨[], (List.append_nil _).symm⟩, fun plan there => ⟨plan, there, rfl, rfl⟩⟩
    refine ⟨inv.stored, fun other member => ?_⟩
    obtain old | new := List.mem_append.mp member
    · exact (inv.calls other old).extends more
    · obtain rfl := List.mem_singleton.mp new
      exact ⟨own, trivial⟩
  · have stored : ({ s with system := s.system.perform call } : Offboarding).stored? = s.stored? := by
      unfold stored?
      exact congrArg (fun plans => plans.get? s.planId) (plans_beside beside s.system)
    have more : s.Extends { s with system := s.system.perform call } :=
      ⟨rfl, ⟨[], (List.append_nil _).symm⟩,
        fun plan there => ⟨plan, stored.trans there, rfl, rfl⟩⟩
    refine ⟨fun plan there => inv.stored plan (stored.symm.trans there), fun other member => ?_⟩
    exact (inv.calls other member).extends more
  · obtain ⟨more, justified, newFits⟩ := moves.extends inv fits i
    refine ⟨justified, fun other member => ?_⟩
    obtain old | rfl := List.mem_or_eq_of_mem_set member
    · exact (inv.calls other old).extends more
    · exact newFits

structure Ordered (s : Offboarding) : Prop where
  blocked : ∀ plan, s.stored? = some plan → plan.state = .blocked → .begun ∉ s.log
  deletion : .deletion ∈ s.log → .begun ∈ s.log
  deleting : ∀ call ∈ s.calls, ∀ plan, call.progress.deleting? = some plan → .begun ∈ s.log
  absent : s.stored? = none → .begun ∉ s.log

theorem Moved.ordered {call : OffboardingCall} {system : System} {progress : Progress}
    {events : List Event} (moves : Moved s call system progress events) (ordered : s.Ordered)
    (fits : s.Fits call) (member : call ∈ s.calls)
    (writes : ∀ plan next, call.progress = .writing plan next →
      next.state = .blocked → .begun ∉ s.log)
    (looks : ∀ request plan, call.request = .execute request → call.progress = .looking plan →
      s.system.lookups plan request.now = .ok ([], []) → s.Unmoved plan) (i : Nat) :
    (s.after i call system progress events).Ordered := by
  have others {log : List Event} (grows : .begun ∈ s.log → .begun ∈ log)
      (own : ∀ plan, progress.deleting? = some plan → .begun ∈ log) (other : OffboardingCall)
      (there : other ∈ s.calls.set i { call with progress := progress })
      (plan : TenantOffboardingPlan) (deleting : other.progress.deleting? = some plan) :
      .begun ∈ log := by
    obtain old | rfl := List.mem_or_eq_of_mem_set there
    · exact grows (ordered.deleting other old plan deleting)
    · exact own plan deleting
  have grows {events : List Event} (there : .begun ∈ s.log) : .begun ∈ s.log ++ events :=
    List.mem_append_left _ there
  cases moves with
  | stayed progressFits idle =>
    have log : (s.after i call s.system progress []).log = s.log := List.append_nil _
    refine ⟨?_, ?_, others grows fun plan deleting => ?_, ?_⟩
    · rw [log]
      exact ordered.blocked
    · rw [log]
      exact ordered.deletion
    · rw [idle] at deleting
      cases deleting
    · rw [log]
      exact ordered.absent
  | created plan absent id justified =>
    have before := ordered.absent absent
    have fresh : .begun ∉ s.log ++ [.created] := by simp [before]
    refine ⟨fun _ _ _ => fresh, fun there => ?_, others grows fun other deleting => ?_,
      fun _ => fresh⟩
    · have old : .deletion ∈ s.log := by simpa [after] using there
      exact absurd (ordered.deletion old) before
    · cases deleting
  | begun request plan candidates execution looking free =>
    have now : .begun ∈ s.log ++ [.begun] := List.mem_append_right _ (List.mem_singleton_self _)
    have unmoved := looks request plan execution looking free
    obtain ⟨request', before⟩ := call
    cases looking
    obtain ⟨-, read, pending⟩ := fits
    obtain ⟨stored, present, -⟩ := read.stored
    refine ⟨fun other there state => ?_, fun _ => now, others grows fun _ _ => now, fun there => ?_⟩
    · rw [unmoved other there, pending] at state
      cases state
    · cases (present.symm.trans there)
  | deletion plan before deleting deletes =>
    have begun := ordered.deleting call member plan before
    have stored : (s.after i call system progress [.deletion]).stored? = s.stored? := by
      unfold stored?
      exact congrArg (fun plans => plans.get? s.planId) deletes.plans
    refine ⟨fun other there state => ?_, fun _ => grows begun, others grows fun _ _ => grows begun,
      fun there => ?_⟩
    · exact absurd begun (ordered.blocked other (stored.symm.trans there) state)
    · exact absurd begun (ordered.absent (stored.symm.trans there))
  | wrote plan next writing =>
    have blocks := writes plan next writing
    obtain ⟨request, before⟩ := call
    cases writing
    obtain ⟨-, read, succeeds⟩ := fits
    have there := stored_put (s := s) (succeeds.id.trans read.id)
    have quiet : Event.begun ≠ request.written next ∧ Event.deletion ≠ request.written next := by
      cases request with
      | create | approve | completeExport => exact ⟨nofun, nofun⟩
      | execute =>
        unfold OffboardingRequest.written
        dsimp only
        split <;> exact ⟨nofun, nofun⟩
    refine ⟨fun other found state => ?_, fun found => ?_, others grows fun other deleting => ?_,
      fun none_there => ?_⟩
    · obtain rfl : next = other := Option.some.inj (there.symm.trans found)
      have unbegun := blocks state
      simp [after, unbegun, quiet.1]
    · have old : .deletion ∈ s.log := by simpa [after, quiet.2] using found
      exact grows (ordered.deletion old)
    · cases deleting
    · cases (there.symm.trans none_there)

theorem CallFinds.writes {fails : Bool} {call : OffboardingCall} {plan next : TenantOffboardingPlan}
    (finds : s.CallFinds fails call) (writing : call.progress = .writing plan next) :
    s.Unmoved plan ∧ (next.state = .blocked → .begun ∉ s.log) := by
  obtain ⟨request, progress⟩ := call
  cases writing
  exact finds

theorem CallFinds.looks {fails : Bool} {call : OffboardingCall}
    {request : TenantOffboardingDeletionRequest} {plan : TenantOffboardingPlan}
    (finds : s.CallFinds fails call) (execution : call.request = .execute request)
    (looking : call.progress = .looking plan)
    (free : s.system.lookups plan request.now = .ok ([], [])) : s.Unmoved plan := by
  obtain ⟨request', progress⟩ := call
  cases execution
  cases looking
  exact finds free

theorem CallFinds.interrupted {fails : Bool} {call : OffboardingCall}
    {request : TenantOffboardingDeletionRequest} {plan : TenantOffboardingPlan}
    {object : StorageObject} {rest : List StorageObject} {e : Raised}
    (finds : s.CallFinds fails call) (execution : call.request = .execute request)
    (deleting : call.progress = .deletingObjects plan (object :: rest))
    (failed : (deleteObject (fun _ => fails) request.tenantId request.now object s.system).1 =
      .error e) : s.Unmoved plan := by
  obtain ⟨request', progress⟩ := call
  cases execution
  cases deleting
  exact finds (by rw [failed]; nofun)

theorem ordered_step (inv : s.Inv) (ordered : s.Ordered) {label : Label} (finds : s.FindsPlan label)
    (moved : s.step label = some s') : s'.Ordered := by
  obtain ⟨request, rfl, own, rfl⟩ | ⟨call, rfl, beside, rfl⟩ |
    ⟨i, fails, now, call, system, progress, events, rfl, listed, fits, -, moves, rfl⟩ :=
    step_cases inv moved
  · refine ⟨ordered.blocked, ordered.deletion, fun other member plan deleting => ?_, ordered.absent⟩
    obtain old | new := List.mem_append.mp member
    · exact ordered.deleting other old plan deleting
    · obtain rfl := List.mem_singleton.mp new
      cases deleting
  · have stored : ({ s with system := s.system.perform call } : Offboarding).stored? = s.stored? := by
      unfold stored?
      exact congrArg (fun plans => plans.get? s.planId) (plans_beside beside s.system)
    exact ⟨fun plan there => ordered.blocked plan (stored.symm.trans there), ordered.deletion,
      ordered.deleting, fun there => ordered.absent (stored.symm.trans there)⟩
  · have found := finds call listed
    exact moves.ordered ordered fits (List.mem_of_getElem? listed)
      (fun plan next writing => (found.writes writing).2)
      (fun request plan execution looking => found.looks execution looking) i

/-- Only the deletions of an execution remove data, after an approval and, if it has to be
exported before, after an export. -/
theorem Moved.cleared {call : OffboardingCall} {system : System} {progress : Progress}
    {events : List Event} (moves : Moved s call system progress events) (fits : s.Fits call)
    (removed : ∃ item, s.system.Stored item ∧ ¬system.Stored item) :
    ∃ plan, s.stored? = some plan ∧ Cleared s.log plan.exportBeforeDelete := by
  obtain ⟨item, stored, gone⟩ := removed
  cases moves with
  | stayed => exact absurd stored gone
  | created => exact absurd ((System.stored_with_plans _ item).mpr stored) gone
  | begun => exact absurd stored gone
  | wrote => exact absurd ((System.stored_with_plans _ item).mpr stored) gone
  | deletion plan before =>
    obtain ⟨read, pending⟩ := fits.deleting before
    obtain ⟨there, present, -, exportFirst⟩ := read.stored
    exact ⟨there, present, exportFirst ▸ read.justified.deleting pending⟩

theorem cleared_step (inv : s.Inv) {i : Nat} {fails : Bool} {now : Time}
    (moved : s.step (.advance i fails now) = some s')
    (removed : ∃ item, s.system.Stored item ∧ ¬s'.system.Stored item) :
    ∃ plan, s.stored? = some plan ∧ Cleared s.log plan.exportBeforeDelete := by
  obtain ⟨_, start, -⟩ | ⟨_, beside, -⟩ |
    ⟨i, fails, now, call, system, progress, events, -, -, fits, -, moves, rfl⟩ :=
    step_cases inv moved
  · cases start
  · cases beside
  · exact moves.cleared fits removed

theorem final_step (inv : s.Inv) {label : Label} (finds : s.FindsPlan label)
    (moved : s.step label = some s') (plan : TenantOffboardingPlan) (there : s.stored? = some plan)
    (ended : plan.state = .blocked ∨ plan.state = .deleted) :
    ∃ next, s'.stored? = some next ∧ next.state = plan.state := by
  obtain ⟨request, rfl, own, rfl⟩ | ⟨call, rfl, beside, rfl⟩ |
    ⟨i, fails, now, call, system, progress, events, rfl, listed, fits, -, moves, rfl⟩ :=
    step_cases inv moved
  · exact ⟨plan, there, rfl⟩
  · refine ⟨plan, Eq.trans ?_ there, rfl⟩
    unfold stored?
    exact congrArg (fun plans => plans.get? s.planId) (plans_beside beside s.system)
  · cases moves with
    | stayed => exact ⟨plan, there, rfl⟩
    | begun => exact ⟨plan, there, rfl⟩
    | created other absent =>
      rw [absent] at there
      cases there
    | deletion other before deleting deletes =>
      refine ⟨plan, Eq.trans ?_ there, rfl⟩
      unfold stored?
      exact congrArg (fun plans => plans.get? s.planId) deletes.plans
    | wrote other next writing =>
      have unmoved := ((finds call listed).writes writing).1 plan there
      obtain ⟨request, before⟩ := call
      cases writing
      have state := fits.2.2.state
      rw [unmoved] at ended
      cases request with
      | create => exact state.elim
      | approve =>
        rw [state.1] at ended
        obtain h | h := ended <;> cases h
      | completeExport =>
        rw [state.1] at ended
        obtain h | h := ended <;> cases h
      | execute =>
        rw [state.1] at ended
        obtain h | h := ended <;> cases h

theorem advanceCall_interrupted {fails : Bool} {now : Time} {call : OffboardingCall}
    {request : TenantOffboardingDeletionRequest} {plan : TenantOffboardingPlan}
    {object : StorageObject} {rest : List StorageObject} {e : Raised}
    (execution : call.request = .execute request)
    (deleting : call.progress = .deletingObjects plan (object :: rest))
    (failed : (deleteObject (fun _ => fails) request.tenantId request.now object s.system).1 =
      .error e) :
    s.advanceCall fails now call = some (s.system, .raised e, []) := by
  obtain ⟨request', progress⟩ := call
  cases execution
  cases deleting
  have unchanged : deleteObject (fun _ => fails) request.tenantId request.now object s.system =
      (.error e, s.system) := by
    unfold deleteObject at failed ⊢
    split at failed
    · next failing =>
      rw [if_pos failing]
      cases failed
      rfl
    · next holding =>
      rw [if_neg holding]
      split at failed
      · cases failed
      · cases failed
        rfl
  unfold advanceCall deleteStep
  dsimp only
  rw [unchanged]

theorem lawful_step (inv : s.Inv) (ordered : s.Ordered) {label : Label} (finds : s.FindsPlan label)
    (moved : s.step label = some s') : s.Lawful label s' where
  cleared i fails now same removed := by
    subst same
    exact cleared_step inv moved removed
  final := final_step inv finds moved
  unblocked deleted plan there state :=
    (ordered_step inv ordered finds moved).blocked plan there state
      ((ordered_step inv ordered finds moved).deletion deleted)
  resumed i fails now call request plan object rest e same listed execution deleting failed := by
    subst same
    have unmoved := (finds call listed).interrupted execution deleting failed
    have fits := inv.calls call (List.mem_of_getElem? listed)
    have here : call.progress.deleting? = some plan := by rw [deleting]; rfl
    obtain ⟨read, pending⟩ := fits.deleting here
    obtain ⟨stored, there, -⟩ := read.stored
    have advanced : s.step (.advance i fails now) = some { s with
        system := s.system
        calls := s.calls.set i { call with progress := .raised e }
        log := s.log ++ [] } := by
      unfold step
      simp only [listed, advanceCall_interrupted execution deleting failed, Option.bind_eq_bind,
        Option.bind_some]
      rfl
    obtain rfl := Option.some.inj (advanced.symm.trans moved)
    refine ⟨stored, there, (unmoved stored there).trans pending, fun again tenant id free item => ?_⟩
    have found : getPlan s.system.plans again.tenantId again.planId = .ok stored := by
      rw [tenant, id]
      exact getPlan_eq_ok.mpr ⟨there, rfl⟩
    exact execute_removes found ((unmoved stored there).trans pending) free item

end Steps

structure Fresh (s : Offboarding) : Prop where
  stored : s.stored? = none
  calls : s.calls = []
  log : s.log = []

theorem Fresh.inv {s : Offboarding} (fresh : s.Fresh) : s.Inv ∧ s.Ordered := by
  constructor
  · refine ⟨fun plan there => ?_, fun call member => ?_⟩
    · rw [fresh.stored] at there
      cases there
    · rw [fresh.calls] at member
      cases member
  · refine ⟨fun plan there => ?_, fun deleted => ?_, fun call member => ?_, fun _ => ?_⟩
    · rw [fresh.stored] at there
      cases there
    · rw [fresh.log] at deleted
      cases deleted
    · rw [fresh.calls] at member
      cases member
    · rw [fresh.log]
      exact List.not_mem_nil

/-- Whatever the calls find, only executions that have read an approved, and if need be exported,
plan remove data. -/
theorem deletions_follow_approval (s : Offboarding) (fresh : s.Fresh) (labels : List Label) :
    Machine.Along step (fun s label s' => ∀ i fails now, label = .advance i fails now →
      (∃ item, s.system.Stored item ∧ ¬s'.system.Stored item) →
      ∃ plan, s.stored? = some plan ∧ Cleared s.log plan.exportBeforeDelete) s labels := by
  refine Machine.Along.of_invariant (fun s label s' inv _ moved => ⟨inv_step inv moved, ?_⟩)
    fresh.inv.1 (Machine.along_true step s labels)
  rintro i fails now rfl removed
  exact cleared_step inv moved removed

/-- In every order of the steps of calls on a plan, and of what goes on beside them, the plan
and the data of the tenant keep the law, as long as the writes find the plan in the state that
was read and none blocks it after an execution has begun to delete. -/
theorem data_deleted_only_on_cleared_plan (s : Offboarding) (fresh : s.Fresh) (labels : List Label)
    (finds : Machine.Conforms step FindsPlan s labels) :
    Machine.Along step Lawful s labels := by
  obtain ⟨inv, ordered⟩ := fresh.inv
  refine Machine.Along.of_invariant (I := fun s => s.Inv ∧ s.Ordered)
    (fun s label s' kept found moved => ?_) ⟨inv, ordered⟩ finds
  exact ⟨⟨inv_step kept.1 moved, ordered_step kept.1 kept.2 found moved⟩,
    lawful_step kept.1 kept.2 found moved⟩

section Races

def tenantData : System where
  policyBackend := .memory
  catalogBackend := .memory
  legalHolds := []
  plans := Table.empty
  objects := Table.empty.put {
    id := "object"
    tenantId := "tenant"
    workspaceId := none
    runId := none
    retentionExpiresAt := none
    deletedAt := none
    createdAt := 1 }
  memories := [System.heldRecord]
  shortTermMemories := []
  bases := []
  documents := []

def leaving : Offboarding := ⟨tenantData, "plan", [], []⟩

def asked : TenantOffboardingRequest where
  reason := "contract ended"
  exportBeforeDelete := false
  categories := [.memory, .storageObject]
  tenantId := "tenant"
  requestedByUserId := "owner"

def approval : List Label :=
  [.begin (.create asked), .advance 0 false 1, .advance 0 false 1,
    .begin (.approve ⟨"tenant", "plan", "admin"⟩), .advance 1 false 2, .advance 1 false 2]

def deletes (call : Nat) (fails : Bool) : List Label :=
  [.advance call false 3, .advance call false 3, .advance call false 3, .advance call fails 3]

def started : Label := .begin (.execute System.deletion)

/-- An execution deletes the memory and the object, and its plan becomes deleted. -/
def carriedOut : List Label :=
  approval ++ [started, .advance 2 false 3, .advance 2 false 3] ++ deletes 2 false ++
    [.advance 2 false 3, .advance 2 false 3]

theorem lawful_when_carried_out : Machine.Along step Lawful leaving carriedOut := by
  exact data_deleted_only_on_cleared_plan leaving ⟨rfl, rfl, rfl⟩ carriedOut (by decide +kernel)

/-- The deletion of the object fails after the memory is gone, and the next execution meets a
hold. -/
def interrupted : List Label :=
  approval ++ [started, .advance 2 false 3, .advance 2 false 3] ++ deletes 2 true ++
    [.meanwhile (.createLegalHold System.heldTenant), started, .advance 3 false 4,
      .advance 3 false 4]

/-- Two executions have read the plan before one of them deletes the data; the other one then
meets a hold. -/
def overtaken : List Label :=
  approval ++ [started, started, .advance 2 false 3, .advance 3 false 3, .advance 2 false 3] ++
    deletes 2 false ++ [.advance 2 false 3, .advance 2 false 3,
      .meanwhile (.createLegalHold System.heldTenant), .advance 3 false 4]

/-- The last step of an execution blocks a plan whose data is gone, and one that is deleted. -/
theorem plan_blocked_after_deletion :
    ¬Machine.Along step Lawful leaving (interrupted ++ [.advance 3 false 4]) ∧
      ¬Machine.Along step Lawful leaving (overtaken ++ [.advance 3 false 4]) := by
  constructor
  · intro lawful
    have ends : ∃ s ∈ Machine.run step leaving interrupted,
        ∃ s' ∈ s.step (.advance 3 false 4), .deletion ∈ s'.log ∧
          ∃ plan ∈ s'.stored?, plan.state = .blocked := by
      decide +kernel
    obtain ⟨s, ran, s', moved, deleted, plan, there, blocked⟩ := ends
    exact (lawful.at_prefix interrupted ran moved).unblocked deleted plan there blocked
  · intro lawful
    have ends : ∃ s ∈ Machine.run step leaving overtaken, ∃ plan ∈ s.stored?,
        plan.state = .deleted ∧ ∃ s' ∈ s.step (.advance 3 false 4),
          ∃ next ∈ s'.stored?, next.state = .blocked := by
      decide +kernel
    obtain ⟨s, ran, plan, there, deleted, s', moved, next, after, blocked⟩ := ends
    obtain ⟨other, found, same⟩ :=
      (lawful.at_prefix overtaken ran moved).final plan there (.inr deleted)
    obtain rfl : next = other := Option.some.inj (after.symm.trans found)
    rw [deleted, blocked] at same
    cases same

end Races

end Offboarding

end Taroai.Lifecycle
