import Mathlib.Data.List.Basic
import Taroai.Clock
import Taroai.Lib.Raising
import Taroai.Workflow.Approval

/-! The approval requests of the in-memory store. `resolve_approval_request` and
`reject_approval_request` complete a request whatever its status;
`cancel_pending_approval_requests` takes only those that are pending. Audit events say the same
as the run events and are left out. -/

namespace Taroai.Store

open Workflow (ApprovalStatus)

structure ApprovalRequest where
  id : String
  stepId : String
  reason : String
  status : ApprovalStatus := .pending
  resolvedByUserId : Option String := none
  createdAt : Time
  resolvedAt : Option Time := none
deriving DecidableEq, Repr

def ApprovalRequest.complete (approval : ApprovalRequest) (status : ApprovalStatus)
    (resolvedByUserId : String) (now : Time) : ApprovalRequest :=
  { approval with
    status := status
    resolvedByUserId := some resolvedByUserId
    resolvedAt := some now }

/-- The run events of the type `approval.*`. -/
inductive ApprovalEvent where
  | requested (approvalId stepId reason : String)
  | completed (type approvalId : String) (status : ApprovalStatus) (resolvedByUserId : String)
deriving DecidableEq, Repr

structure ApprovalStore where
  runs : List String
  approvalRequests : String → List ApprovalRequest
  runEvents : String → List ApprovalEvent

inductive ApprovalStoreError where
  | notFound
deriving DecidableEq, Repr

def rewriteFirst {α : Type} (p : α → Bool) (f : α → α) : List α → Option (α × List α)
  | [] => none
  | x :: rest =>
    if p x then some (f x, f x :: rest)
    else (rewriteFirst p f rest).map fun (y, others) => (y, x :: others)

namespace ApprovalStore

abbrev Op := Raising ApprovalStoreError ApprovalStore

def setRequests (s : ApprovalStore) (runId : String) (approvals : List ApprovalRequest) :
    ApprovalStore :=
  { s with approvalRequests := fun other => if other = runId then approvals else s.approvalRequests other }

def appendRunEvents (s : ApprovalStore) (runId : String) (events : List ApprovalEvent) :
    ApprovalStore :=
  { s with runEvents := fun other =>
      if other = runId then s.runEvents runId ++ events else s.runEvents other }

def getRun (runId : String) : Op Unit := do
  let runs ← Raising.read runs
  Raising.ensure (runId ∈ runs) .notFound

def createApprovalRequest (runId newId stepId reason : String) (now : Time) : Op ApprovalRequest := do
  getRun runId
  let approval : ApprovalRequest := { id := newId, stepId := stepId, reason := reason, createdAt := now }
  Raising.update fun s => s.setRequests runId (s.approvalRequests runId ++ [approval])
  Raising.update fun s => s.appendRunEvents runId [.requested newId stepId reason]
  return approval

/-- `_complete_approval_request`. -/
def completeApprovalRequest (runId approvalId : String) (status : ApprovalStatus)
    (resolvedByUserId eventType : String) (now : Time) : Op ApprovalRequest := do
  getRun runId
  let approvals ← Raising.read fun s => s.approvalRequests runId
  match rewriteFirst (fun approval => approval.id = approvalId)
      (fun approval => approval.complete status resolvedByUserId now) approvals with
  | none => Raising.raise .notFound
  | some (resolved, approvals) => do
    Raising.update fun s => s.setRequests runId approvals
    Raising.update fun s =>
      s.appendRunEvents runId [.completed eventType approvalId status resolvedByUserId]
    return resolved

def resolveApprovalRequest (runId approvalId approvedByUserId : String) (now : Time) :
    Op ApprovalRequest :=
  completeApprovalRequest runId approvalId .approved approvedByUserId "approval.resolved" now

def rejectApprovalRequest (runId approvalId rejectedByUserId : String) (now : Time) :
    Op ApprovalRequest :=
  completeApprovalRequest runId approvalId .rejected rejectedByUserId "approval.rejected" now

def cancelPendingApprovalRequests (runId cancelledByUserId : String) (now : Time) :
    Op (List ApprovalRequest) := do
  getRun runId
  let approvals ← Raising.read fun s => s.approvalRequests runId
  let pending := approvals.filter fun approval => approval.status = .pending
  Raising.update fun s => s.setRequests runId (approvals.map fun approval =>
    if approval.status = .pending then approval.complete .cancelled cancelledByUserId now
    else approval)
  Raising.update fun s => s.appendRunEvents runId (pending.map fun approval =>
    .completed "approval.cancelled" approval.id .cancelled cancelledByUserId)
  return pending.map fun approval => approval.complete .cancelled cancelledByUserId now

inductive Call where
  | create (runId newId stepId reason : String) (now : Time)
  | resolve (runId approvalId userId : String) (now : Time)
  | reject (runId approvalId userId : String) (now : Time)
  | cancelPending (runId userId : String) (now : Time)
deriving DecidableEq, Repr

def perform (s : ApprovalStore) : Call → ApprovalStore
  | .create runId newId stepId reason now => (createApprovalRequest runId newId stepId reason now s).2
  | .resolve runId approvalId userId now => (resolveApprovalRequest runId approvalId userId now s).2
  | .reject runId approvalId userId now => (rejectApprovalRequest runId approvalId userId now s).2
  | .cancelPending runId userId now => (cancelPendingApprovalRequests runId userId now s).2

def Call.subject? : Call → Option (String × String)
  | .resolve runId approvalId _ _ | .reject runId approvalId _ _ => some (runId, approvalId)
  | .create .. | .cancelPending .. => none

def approval? (s : ApprovalStore) (runId approvalId : String) : Option ApprovalRequest :=
  if runId ∈ s.runs then (s.approvalRequests runId).find? fun approval => approval.id = approvalId
  else none

def FindsPending (s : ApprovalStore) (call : Call) : Prop :=
  ∀ runId approvalId, call.subject? = some (runId, approvalId) →
    ∀ approval, s.approval? runId approvalId = some approval → approval.status = .pending

/-- A call leaves alone what was resolved before it: the approvals, and the run of the approval
that it is for. -/
structure LeavesResolved (s : ApprovalStore) (call : Call) : Prop where
  approvals : ∀ runId (i : Nat) (approval : ApprovalRequest), (s.approvalRequests runId)[i]? = some approval →
    approval.status ≠ .pending → ((s.perform call).approvalRequests runId)[i]? = some approval
  run : ∀ runId approvalId (approval : ApprovalRequest), call.subject? = some (runId, approvalId) →
    s.approval? runId approvalId = some approval → approval.status ≠ .pending →
    (s.perform call).runEvents runId = s.runEvents runId

section Calls

variable {s : ApprovalStore} {call : Call}

theorem rewriteFirst_some {α : Type} {p : α → Bool} {xs : List α} {x : α}
    (found : xs.find? p = some x) (f : α → α) (still : p (f x) = true) :
    ∃ front rest, xs = front ++ x :: rest ∧
      rewriteFirst p f xs = some (f x, front ++ f x :: rest) ∧
      (front ++ f x :: rest).find? p = some (f x) := by
  induction xs with
  | nil => cases found
  | cons y rest ih =>
    rw [List.find?_cons] at found
    rw [rewriteFirst]
    by_cases here : p y = true
    · rw [here] at found
      cases found
      exact ⟨[], rest, rfl, if_pos here, by simp [still]⟩
    · rw [Bool.not_eq_true] at here
      rw [here] at found
      obtain ⟨front, others, whole, same, first⟩ := ih found
      exact ⟨y :: front, others, by rw [whole]; rfl, by simp [here, same], by simp [here, first]⟩

theorem rewriteFirst_none {α : Type} {p : α → Bool} {xs : List α} (missing : xs.find? p = none)
    (f : α → α) : rewriteFirst p f xs = none := by
  induction xs with
  | nil => rfl
  | cons y rest ih =>
    rw [List.find?_cons] at missing
    rw [rewriteFirst]
    by_cases here : p y = true
    · rw [here] at missing
      cases missing
    · rw [Bool.not_eq_true] at here
      rw [here] at missing
      simp [here, ih missing]

theorem getRun_bind {β : Type} (runId : String) (f : Unit → Op β) (s : ApprovalStore) :
    (getRun runId >>= f) s = if runId ∈ s.runs then f () s else (.error .notFound, s) := by
  unfold getRun
  exact Raising.ensure_bind _ _ _ _

theorem requests_setRequests (s : ApprovalStore) (runId other : String)
    (approvals : List ApprovalRequest) (events : List ApprovalEvent) :
    ((s.setRequests runId approvals).appendRunEvents runId events).approvalRequests other =
      if other = runId then approvals else s.approvalRequests other := rfl

theorem complete_missing {runId approvalId : String} (missing : s.approval? runId approvalId = none)
    (status : ApprovalStatus) (userId eventType : String) (now : Time) :
    (completeApprovalRequest runId approvalId status userId eventType now s).2 = s := by
  unfold approval? at missing
  unfold completeApprovalRequest
  rw [getRun_bind]
  by_cases exists_ : runId ∈ s.runs
  · rw [if_pos exists_] at missing ⊢
    rw [Raising.read_bind, rewriteFirst_none missing]
    rfl
  · rw [if_neg exists_]

theorem complete_found {runId approvalId : String} {approval : ApprovalRequest}
    (found : s.approval? runId approvalId = some approval) (status : ApprovalStatus)
    (userId eventType : String) (now : Time) : ∃ front rest,
      s.approvalRequests runId = front ++ approval :: rest ∧
      (completeApprovalRequest runId approvalId status userId eventType now s).2 =
        (s.setRequests runId (front ++ approval.complete status userId now :: rest)).appendRunEvents
          runId [.completed eventType approvalId status userId] ∧
      (completeApprovalRequest runId approvalId status userId eventType now s).2.approval? runId
        approvalId = some (approval.complete status userId now) := by
  unfold approval? at found
  split at found
  · next exists_ =>
    have still := List.find?_some found
    obtain ⟨front, rest, whole, rewritten, first⟩ := rewriteFirst_some found
      (fun approval => approval.complete status userId now) still
    have completed : (completeApprovalRequest runId approvalId status userId eventType now s).2 =
        (s.setRequests runId (front ++ approval.complete status userId now :: rest)).appendRunEvents
          runId [.completed eventType approvalId status userId] := by
      unfold completeApprovalRequest
      rw [getRun_bind, if_pos exists_, Raising.read_bind, rewritten]
      rfl
    refine ⟨front, rest, whole, completed, ?_⟩
    rw [completed, approval?, requests_setRequests, if_pos rfl]
    exact (if_pos exists_).trans first
  · cases found

theorem perform_subject {runId approvalId : String} (subject : call.subject? = some (runId, approvalId))
    (s : ApprovalStore) : ∃ status userId eventType now,
      s.perform call = (completeApprovalRequest runId approvalId status userId eventType now s).2 := by
  cases call with
  | create runId newId stepId reason now => cases subject
  | cancelPending runId userId now => cases subject
  | resolve runId approvalId userId now =>
    cases subject
    exact ⟨_, _, _, _, rfl⟩
  | reject runId approvalId userId now =>
    cases subject
    exact ⟨_, _, _, _, rfl⟩

theorem getElem?_rewritten {front rest : List ApprovalRequest} {old new approval : ApprovalRequest}
    {i : Nat} (there : (front ++ old :: rest)[i]? = some approval) (other : approval ≠ old) :
    (front ++ new :: rest)[i]? = some approval := by
  obtain before | here | after := Nat.lt_trichotomy i front.length
  · rw [List.getElem?_append_left before] at there ⊢
    exact there
  · subst here
    rw [List.getElem?_append_right le_rfl, Nat.sub_self] at there
    exact absurd (Option.some.inj there).symm other
  · rw [List.getElem?_append_right after.le] at there ⊢
    obtain ⟨k, deep⟩ := Nat.exists_eq_succ_of_ne_zero (Nat.sub_ne_zero_of_lt after)
    rw [deep] at there ⊢
    exact there

theorem complete_keeps {runId approvalId : String}
    (pending : ∀ approval, s.approval? runId approvalId = some approval → approval.status = .pending)
    (status : ApprovalStatus) (userId eventType : String) (now : Time) {other : String} {i : Nat}
    {approval : ApprovalRequest} (there : (s.approvalRequests other)[i]? = some approval)
    (resolved : approval.status ≠ .pending) :
    ((completeApprovalRequest runId approvalId status userId eventType now s).2.approvalRequests
      other)[i]? = some approval := by
  cases found : s.approval? runId approvalId with
  | none =>
    rw [complete_missing found]
    exact there
  | some subject =>
    obtain ⟨front, rest, whole, completed, -⟩ := complete_found found status userId eventType now
    rw [completed, requests_setRequests]
    by_cases same : other = runId
    · subst same
      rw [if_pos rfl]
      rw [whole] at there
      refine getElem?_rewritten there ?_
      rintro rfl
      exact resolved (pending _ found)
    · rw [if_neg same]
      exact there

theorem create_keeps (runId newId stepId reason : String) (now : Time) {other : String} {i : Nat}
    {approval : ApprovalRequest} (there : (s.approvalRequests other)[i]? = some approval) :
    ((createApprovalRequest runId newId stepId reason now s).2.approvalRequests other)[i]? =
      some approval := by
  unfold createApprovalRequest
  rw [getRun_bind]
  split
  · change ((if other = runId then s.approvalRequests runId ++ [_]
      else s.approvalRequests other) : List ApprovalRequest)[i]? = _
    split
    · next same =>
      subst same
      have within := (List.getElem?_eq_some_iff.mp there).1
      rw [List.getElem?_append_left within]
      exact there
    · exact there
  · exact there

theorem cancel_keeps (runId userId : String) (now : Time) {other : String} {i : Nat}
    {approval : ApprovalRequest} (there : (s.approvalRequests other)[i]? = some approval)
    (resolved : approval.status ≠ .pending) :
    ((cancelPendingApprovalRequests runId userId now s).2.approvalRequests other)[i]? =
      some approval := by
  unfold cancelPendingApprovalRequests
  rw [getRun_bind]
  split
  · change ((if other = runId then (s.approvalRequests runId).map _
      else s.approvalRequests other) : List ApprovalRequest)[i]? = _
    split
    · next same =>
      subst same
      rw [List.getElem?_map, there, Option.map_some, if_neg resolved]
    · exact there
  · exact there

/-- A call leaves alone what was resolved if and only if it does not complete a resolved
approval again. -/
theorem leavesResolved_iff (s : ApprovalStore) (call : Call) :
    s.LeavesResolved call ↔ s.FindsPending call := by
  constructor
  · intro leaves runId approvalId subject approval found
    by_contra resolved
    have unchanged := leaves.run runId approvalId approval subject found resolved
    obtain ⟨status, userId, eventType, now, completes⟩ := perform_subject subject s
    obtain ⟨front, rest, -, completed, -⟩ := complete_found found status userId eventType now
    rw [completes, completed] at unchanged
    have grown : s.runEvents runId ++ [.completed eventType approvalId status userId] =
        s.runEvents runId := (if_pos rfl).symm.trans unchanged
    simp at grown
  · intro finds
    refine ⟨fun other i approval there resolved => ?_, fun runId approvalId approval subject found
      resolved => absurd (finds runId approvalId subject approval found) resolved⟩
    cases call with
    | create runId newId stepId reason now => exact create_keeps runId newId stepId reason now there
    | cancelPending runId userId now => exact cancel_keeps runId userId now there resolved
    | resolve runId approvalId userId now =>
      exact complete_keeps (finds runId approvalId rfl) _ _ _ _ there resolved
    | reject runId approvalId userId now =>
      exact complete_keeps (finds runId approvalId rfl) _ _ _ _ there resolved

def AllFindPending (s : ApprovalStore) : List Call → Prop
  | [] => True
  | call :: rest => s.FindsPending call ∧ AllFindPending (s.perform call) rest

theorem resolved_stays {calls : List Call} (finds : s.AllFindPending calls) {runId : String} {i : Nat}
    {approval : ApprovalRequest} (there : (s.approvalRequests runId)[i]? = some approval)
    (resolved : approval.status ≠ .pending) :
    ((calls.foldl perform s).approvalRequests runId)[i]? = some approval := by
  induction calls generalizing s with
  | nil => exact there
  | cons call rest ih =>
    exact ih finds.2
      (((leavesResolved_iff s call).mpr finds.1).approvals runId i approval there resolved)

end Calls

end ApprovalStore

end Taroai.Store
