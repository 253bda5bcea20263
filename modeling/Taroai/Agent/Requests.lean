import Taroai.Agent.Nodes

/-! What `agent/runtime.py` does with a run outside the graph: the requests of users, and what an
execution does before it enters the graph. -/

namespace Taroai.Agent

open Services (saveState persistCheckpoint restoreState)

/-- `_initial_state` -/
def initialState (runtime : AgentRuntime) (status : RunStatus) : AgentRuntimeState where
  status := status
  maxIterations := runtime.loopMaxIterations
  maxRepairs := runtime.loopMaxRepairs

section Requests

variable (runtime : AgentRuntime)

/-- What `cancel_run` makes of the state, with its checkpoint. -/
def closeCancelled (state : AgentRuntimeState) : Task Unit := do
  let state :=
    { state with
      status := .cancelled
      approvalId := none
      pendingGuardrailApprovalKey := none
      pendingGuardrailApprovalStage := none
      failureReason := some "Run cancelled" }
  Services.cancelCurrentAction state
  let state ← saveState { state with currentStepId := none }
  let state ← persistCheckpoint { state with waitingReason := some "cancelled_by_user" }
  let state ← saveState { state with terminalEventEmitted := true }
  let _ ← Services.destroyRuntimeSandboxSession state
  return ()

def cancelRun : Task Unit := do
  if (← call .getRun).terminal then .raise else
  call (.updateRunStatus .cancelled)
  let state := (← call .loadState).getD (initialState runtime .cancelled)
  closeCancelled state

/-- The decision of an action that did not succeed is put back before the others, and asks for
approval again. -/
def requeue (state : AgentRuntimeState) (action : AgentAction) : AgentRuntimeState :=
  if action.observation.any AgentObservation.success ∨ action.decision ∈ state.pendingActions then
    state
  else
    { state with
      pendingActions := action.decision :: state.pendingActions
      approvedStepIds :=
        state.approvedStepIds.filter fun stepId => stepId ≠ (decisionStep action).id }

def anotherAttempt (state : AgentRuntimeState) : AgentRuntimeState :=
  { state with
    status := .running
    maxIterations := state.iteration + runtime.loopMaxIterations
    repairAttempts := 0
    replanCount := 0
    failureReason := none
    waitingReason := none
    pendingUncertainActionId := none
    currentActionId := none
    currentCycleId := none
    currentStepId := none
    approvalId := none
    pendingGuardrailApprovalKey := none
    pendingGuardrailApprovalStage := none
    terminalEventEmitted := false
    graphFailureCode := none
    graphFailureDetail := none
    runtimeMetadata :=
      { state.runtimeMetadata with
        prefetchedAction := !state.pendingActions.isEmpty
        activeApprovalExecution := none
        executionAttempt := state.runtimeMetadata.executionAttempt + 1
        attemptStartIteration := state.iteration } }

def requestRunRetry : Task Unit := do
  let status ← call .getRun
  if status.retryable then
    call (.updateRunStatus .retrying)
    let state ← restoreState (initialState runtime .retrying)
    let state ←
      match ← Nodes.currentAction state with
      | some action => pure (requeue state action)
      | none => pure state
    let _ ← persistCheckpoint (anotherAttempt runtime state)
    return ()
  else .raise

def approvedState (state : AgentRuntimeState) : AgentRuntimeState :=
  { state with
    status := .running
    runtimeMetadata := { state.runtimeMetadata with workflowPreviewPending := false }
    approvedStepIds :=
      match state.currentStepId with
      | some stepId =>
        if stepId ∈ state.approvedStepIds then state.approvedStepIds
        else state.approvedStepIds ++ [stepId]
      | none => state.approvedStepIds }

def closeGuardrail (approvalId : String) (state : AgentRuntimeState) : Task AgentRuntimeState := do
  if state.pendingGuardrailApprovalKey.isSome then
    call (.updateApprovalExecution approvalId "applied")
    saveState
      { state with
        pendingGuardrailApprovalKey := none
        pendingGuardrailApprovalStage := none
        approvalId := none }
  else return state

/-- What an approval makes of the state. An approved artifact is not executed again. -/
def applyApproval (approvalId : String) (state : AgentRuntimeState) : Task Unit := do
  call (.updateApprovalExecution approvalId "applying")
  call (.updateRunStatus .running)
  let artifact : Bool :=
    state.pendingGuardrailApprovalKey.isSome && state.pendingGuardrailApprovalStage = some "artifact"
  let state ← closeGuardrail approvalId (approvedState state)
  if artifact then
    let _ ← Services.finalize state
    return ()
  else
  let execution : ApprovalExecution := { approvalId, stepId := state.currentStepId }
  let _ ← saveState
    { state with
      approvalId := none
      runtimeMetadata := { state.runtimeMetadata with activeApprovalExecution := some execution } }
  return ()

/-- `resume_after_approval` up to the execution that follows it. -/
def resumeAfterApproval (approvalId : String) : Task Unit := do
  match ← call .loadState with
  | none => .raise
  | some state =>
  if state.approvalId ≠ some approvalId then .raise else applyApproval approvalId state

def closeRejected (state : AgentRuntimeState) : Task Unit := do
  let state ← saveState
    { state with
      status := .cancelled
      approvalId := none
      pendingGuardrailApprovalKey := none
      pendingGuardrailApprovalStage := none
      failureReason := some "Approval rejected" }
  let state ← saveState { state with terminalEventEmitted := true }
  let _ ← Services.destroyRuntimeSandboxSession state
  return ()

def rejectApproval (approvalId : String) : Task Unit := do
  match ← call .loadState with
  | none => .raise
  | some state =>
  if state.approvalId ≠ some approvalId then .raise else
  if (← call .getRun).terminal then .raise else
  call (.updateRunStatus .cancelled)
  closeRejected state

end Requests

inductive Request where
  | cancel
  | retry
  | approve (approvalId : String)
  | reject (approvalId : String)

def Request.task (runtime : AgentRuntime) : Request → Task Unit
  | .cancel => cancelRun runtime
  | .retry => requestRunRetry runtime
  | .approve approvalId => resumeAfterApproval approvalId
  | .reject approvalId => rejectApproval approvalId

/-- What an execution does before the graph: it loads the compiled playbook of its agent, or lets
the model answer a chat at once, or with an action. -/
inductive Entry where
  | graph
  | playbook (result : CompiledResult) (queued : Option AgentDecision)
  | action (decision : AgentDecision)
  | ended (status : RunStatus)

/-- `execute_run` from the restored state. An execution that ends before the graph takes no
route. -/
def executeRun (runtime : AgentRuntime) (run : Run) (entry : Entry) (state : AgentRuntimeState) :
    Task AgentRuntimeState :=
  match entry with
  | .graph => Nodes.observe runtime run state
  | .playbook result queued => do
    let metadata := { state.runtimeMetadata with compiledPlaybook := some result }
    let state ← saveState
      (match queued with
      | some decision =>
        { state with
          pendingActions := [decision]
          runtimeMetadata := { metadata with prefetchedAction := true } }
      | none => { state with runtimeMetadata := metadata })
    Nodes.observe runtime run state
  | .action decision => do
    call (.updateRunStatus .running)
    let state ← saveState
      { state with
        status := .running
        pendingActions := [decision]
        runtimeMetadata := { state.runtimeMetadata with prefetchedAction := true } }
    Nodes.observe runtime run state
  | .ended status => do
    call (.updateRunStatus status)
    let state ← saveState { state with status := status }
    return Nodes.route state .ended

end Taroai.Agent
