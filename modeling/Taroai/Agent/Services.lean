import Taroai.Agent.Calls

/-! The execution services of `agent/loop.py` and of `agent/runtime.py` that the nodes use.
A state that the source changes in place is passed on. Run events, messages, audit records and
the status of a cycle are written by the source between these steps and read by none of them. -/

namespace Taroai.Agent.Services

open Program (times)

/-- `_save_state`: a cancelled run stays cancelled, whatever the state says. -/
def saveState (state : AgentRuntimeState) : Task AgentRuntimeState := do
  if (← call .getRun) = .cancelled then
    let persisted ← call .loadState
    let state :=
      { state with
        status := .cancelled
        currentStepId := none
        approvalId := none
        pendingGuardrailApprovalKey := none
        pendingGuardrailApprovalStage := none
        failureReason := some "Run cancelled"
        terminalEventEmitted :=
          state.terminalEventEmitted || persisted.any AgentRuntimeState.terminalEventEmitted }
    call (.saveState state)
    return state
  else
  call (.saveState state)
  return state

def destroyRuntimeSandboxSession (state : AgentRuntimeState) : Task AgentRuntimeState := do
  times (← ask .sandboxDestroyed) saveState state

def cancelCurrentAction (state : AgentRuntimeState) : Task Unit :=
  match state.currentActionId with
  | some actionId => call (.cancelAction actionId)
  | none => return ()

def stop (state : AgentRuntimeState) : Task (Bool × AgentRuntimeState) := do
  cancelCurrentAction state
  let state ← destroyRuntimeSandboxSession { state with status := .cancelled, currentStepId := none }
  let state ← saveState state
  return (true, state)

def stopIfCancelled (state : AgentRuntimeState) : Task (Bool × AgentRuntimeState) := do
  if ← call .isCancelled then stop state else return (false, state)

def nextCheckpointSequence (state : AgentRuntimeState) : Task Nat := do
  if 0 < state.checkpointSequence then return state.checkpointSequence + 1 else
  let latest ← call .latestCheckpoint
  return (latest.map AgentCheckpoint.sequence).getD 0 + 1

def persistCheckpoint (state : AgentRuntimeState) : Task AgentRuntimeState := do
  let sequence ← nextCheckpointSequence state
  let state := { state with checkpointSequence := sequence }
  if ← call (.createCheckpoint sequence state) then saveState state else .raise

def restoreState (initial : AgentRuntimeState) : Task AgentRuntimeState := do
  let checkpoint ← call .latestCheckpoint
  let state := (← call .loadState).getD initial
  match checkpoint with
  | none => return state
  | some checkpoint =>
    if state.checkpointSequence < checkpoint.sequence then
      return { checkpoint.statePayload with checkpointSequence := checkpoint.sequence }
    else return state

/-- `_fail` -/
def fail (state : AgentRuntimeState) (reason : String) (detail : Option String) (timedOut : Bool) :
    Task AgentRuntimeState := do
  let status := if timedOut then .timedOut else .failed
  call (.updateRunStatus status)
  let state ← persistCheckpoint
    { state with status := status, failureReason := some (orElseText detail reason) }
  let state ← destroyRuntimeSandboxSession state
  saveState { state with terminalEventEmitted := true }

def failForPolicyBlock (state : AgentRuntimeState) (decision : PolicyDecision)
    (currentStepId : Option String) : Task AgentRuntimeState :=
  fail { state with currentStepId := currentStepId.or state.currentStepId } "policy_denied"
    (some (orElseText decision.reason "runtime execution denied by policy")) false

def pauseForGuardrailApproval (state : AgentRuntimeState) (stage key : String) :
    Task AgentRuntimeState := do
  let approvalId ← ask (.createApprovalRequest s!"guardrail:{stage}")
  call (.updateRunStatus .awaitingApproval)
  let preserved ← ask .preservesCurrentStep
  saveState
    { state with
      status := .awaitingApproval
      currentStepId := if preserved then state.currentStepId else none
      pendingGuardrailApprovalKey := some key
      pendingGuardrailApprovalStage := some stage
      approvalId := some approvalId }

def pauseForApproval (state : AgentRuntimeState) (step : PlanStep) : Task AgentRuntimeState := do
  let approvalId ← ask (.createApprovalRequest step.id)
  call (.updateRunStatus .awaitingApproval)
  saveState
    { state with
      status := .awaitingApproval
      currentStepId := some step.id
      approvalId := some approvalId }

/-- `_record_model_gateway_failure`: a run that is terminal by now keeps its status. -/
def recordModelGatewayFailure (state : AgentRuntimeState) (reason message : String) :
    Task AgentRuntimeState := do
  let current ← call .getRun
  if current.terminal then
    let persisted ← call .loadState
    return { state with
        status := current
        failureReason := (persisted.map AgentRuntimeState.failureReason).getD state.failureReason }
  else fail state reason (some message) false

def waitForUncertainResolution (state : AgentRuntimeState) (action : AgentAction) :
    Task AgentRuntimeState := do
  call (.updateRunStatus .waitingForUser)
  saveState
    { state with
      pendingUncertainActionId := some action.id
      waitingReason := some "uncertain_side_effect_requires_human_resolution"
      status := .waitingForUser }

def waitForUser (state : AgentRuntimeState) (reason : String) : Task AgentRuntimeState := do
  call (.updateRunStatus .waitingForUser)
  persistCheckpoint
    { state with
      status := .waitingForUser
      waitingReason := some (if reason = "" then "user_input_required" else reason) }

def pauseForConnectorReconnect (state : AgentRuntimeState) (action : AgentAction)
    (observation : AgentObservation) : Task AgentRuntimeState :=
  match observation.output.connectorId with
  | none => .raise
  | some connectorId => do
    if ← call (.pauseForReconnect action.id connectorId) then
      let oauth ← ask (.connectorUsesOauth connectorId)
      let status := if oauth then .awaitingApproval else .waitingForUser
      call (.updateRunStatus status)
      saveState
        { state with
          status := status
          pendingUncertainActionId := some action.id
          waitingReason := some s!"connector_reconnect_required:{connectorId}" }
    else .raise

def reported {ε α : Type} (report : Report ε α) (state : AgentRuntimeState) :
    Task (Except ε α × AgentRuntimeState) := do
  let state ← times report.saves saveState state
  return (report.result, state)

/-- `_load_agent_context` and `_validate_explicit_skill_refs` -/
def loadResources (state : AgentRuntimeState) : Task (Except String Unit × AgentRuntimeState) := do
  let (context, state) ← reported (← ask .agentContext) state
  match context with
  | .error text => return (.error text, state)
  | .ok () => reported (← ask .explicitSkillRefs) state

def prepareSelectedSkill (state : AgentRuntimeState) (decision : AgentDecision) :
    Task (Except String Bool × AgentRuntimeState) := do
  reported (← ask (.selectedSkill decision)) state

/-- `_budget_failure`: the first exhausted budget. -/
def budgetFailure (state : AgentRuntimeState) : Task (Option String) := do
  if state.maxIterations ≤ state.iteration then return some "iteration_budget_exhausted" else
  if state.maxRepairs < state.repairAttempts then return some "repair_budget_exhausted" else
  if ← ask .deadlinePassed then return some "elapsed_budget_exhausted" else
  if ← ask .costExhausted then return some "cost_budget_exhausted" else
  return none

def consumeSteeringAtCheckpoint (run : Run) (state : AgentRuntimeState) :
    Task AgentRuntimeState := do
  if run.hasThread = false ∨ state.checkpointSequence < 1 then return state else
  let messages ← ask .steeringMessages
  if messages = [] then return state else
  saveState { state with steeringMessages := state.steeringMessages ++ messages }

def plannedDecision (step : PlanStep) : AgentDecision where
  kind := .action
  actionKey := some s!"planned:{step.id}"
  toolName := some step.toolName
  skillId := step.skillId
  approvalRequired := step.approvalRequired

def takePlanned (state : AgentRuntimeState) : Task (AgentDecision × AgentRuntimeState) :=
  match state.pendingActions with
  | [] => return ({ kind := .respond, responseText := some "" }, state)
  | decision :: rest => do
    let state ← saveState { state with pendingActions := rest }
    if state.runtimeMetadata.workflowPreviewPending then
      return ({ decision with approvalRequired := true }, state)
    else return (decision, state)

def staticPlanLoaded (run : Run) (state : AgentRuntimeState) (plan : List PlanStep) :
    Task AgentRuntimeState := do
  let state ← saveState
    { state with
      pendingActions := plan.map plannedDecision
      runtimeMetadata := { state.runtimeMetadata with staticPlanLoaded := true } }
  if run.mode = .workflow then
    return { state with
        runtimeMetadata :=
          { state.runtimeMetadata with workflowPreviewPending := !plan.isEmpty } }
  else return state

def decideFromStaticPlan (run : Run) (state : AgentRuntimeState) :
    Task (Except ModelFailure AgentDecision × AgentRuntimeState) := do
  if state.runtimeMetadata.staticPlanLoaded then
    let (decision, state) ← takePlanned state
    return (.ok decision, state)
  else
  match ← ask .plan with
  | .error failure => return (.error failure, state)
  | .ok plan => do
    let state ← staticPlanLoaded run state plan
    let (decision, state) ← takePlanned state
    return (.ok decision, state)

def proposed (state : AgentRuntimeState) (proposal : Proposal) : AgentRuntimeState :=
  let state :=
    { state with
      runtimeMetadata :=
        { state.runtimeMetadata with
          trustedAuthoringActionCompleted :=
            state.runtimeMetadata.trustedAuthoringActionCompleted || proposal.authoredDraft } }
  match proposal.repeatedFailure with
  | none => state
  | some (failureClass, detail) =>
    { state with
      graphFailureCode := some failureClass
      graphFailureDetail := some detail
      finalResponseText := proposal.decision.responseText }

/-- `_decide` -/
def decide (run : Run) (state : AgentRuntimeState) :
    Task (Except ModelFailure AgentDecision × AgentRuntimeState) := do
  let prefetched := state.runtimeMetadata.prefetchedAction
  let state :=
    { state with runtimeMetadata := { state.runtimeMetadata with prefetchedAction := false } }
  match prefetched, state.pendingActions with
  | true, decision :: rest =>
    let state ← saveState { state with pendingActions := rest }
    return (.ok decision, state)
  | _, _ =>
  if run.mode = .workflow then decideFromStaticPlan run state else
  let (answer, state) ← reported (← ask .model) state
  match answer with
  | .error failure => return (.error failure, state)
  | .ok none => decideFromStaticPlan run state
  | .ok (some proposal) => return (.ok proposal.decision, proposed state proposal)

def staticVerdict (state : AgentRuntimeState) : AgentVerificationResult :=
  if state.pendingActions = [] then { outcome := .complete, feedback := "Static plan completed" }
  else { outcome := .replan, feedback := "Continue the static plan" }

/-- `_verify` -/
def verify (run : Run) (state : AgentRuntimeState) (decision : AgentDecision) :
    Task (Except ModelFailure AgentVerificationResult × AgentRuntimeState) := do
  match ← ask .verifier with
  | .error failure => return (.error failure, state)
  | .ok none =>
    let result := staticVerdict state
    let final :=
      if result.outcome = .complete ∧ given state.finalResponseText = false then some "任务已完成。"
      else state.finalResponseText
    return (.ok result, { state with verifierResult := some result, finalResponseText := final })
  | .ok (some result) =>
    let result :=
      if run.mode = .chat ∧ decision.kind = .respond ∧ result.outcome = .waitUser then
        { result with
          outcome := .replan
          feedback := "Return request_input only when an essential answer enables an available " ++
            "tool; otherwise state the truthful limitation and required connection." }
      else result
    return (.ok result, { state with verifierResult := some result })

/-- `_requires_approval`: the connector, the tool policy and the isolation are asked last. -/
def requiresApproval (state : AgentRuntimeState) (decision : AgentDecision) (step : PlanStep) :
    Task Bool := do
  if step.id ∈ state.approvedStepIds then return false else
  if decision.approvalRequired then return true else
  ask (.requiresApproval step)

def failureClass : ToolFailure → String × String
  | .approvalRequired message => ("approval_required", message)
  | .execution message => ("tool_execution_error", message)
  | .credentialExpired _ =>
    ("connector_reconnect_required", "Connector authorization expired; reconnect to continue")
  | .guardrailApproval _ _ message => ("guardrail_approval_required", message)
  | .guardrailViolation message => ("policy_blocked", message)
  | .other message => ("tool_execution_error", message)

def failedOutput (error : ToolError) : ToolOutput :=
  match error.output, error.failure with
  | some output, _ => output
  | none, .credentialExpired connectorId => { connectorId := some connectorId }
  | none, .approvalRequired _ | none, .execution _ | none, .guardrailApproval _ _ _
  | none, .guardrailViolation _ | none, .other _ => {}

def failedObservation (actionId : String) (output : ToolOutput) (reason : String × String) :
    AgentObservation where
  actionId := actionId
  success := false
  output := output
  error := some reason.2
  safeError := some reason.2
  failureClass := some reason.1

def observationOf (actionId : String) : Except ToolError ToolResult → AgentObservation
  | .error error => failedObservation actionId (failedOutput error) (failureClass error.failure)
  | .ok result =>
    match result.failedExitCode with
    | some code =>
      failedObservation actionId result.output
        ("command_failed", s!"Command exited with status {code}")
    | none =>
      { actionId := actionId
        success := true
        output := result.output
        error := none
        safeError := none
        failureClass := none }

/-- The body of the `try`: nothing when the run was cancelled while the step was prepared. -/
def runTool (state : AgentRuntimeState) (claimed : AgentAction) (step : PlanStep) :
    Task (Option (Except ToolError ToolResult) × AgentRuntimeState) := do
  let (prepared, state) ← reported (← ask (.preparedStep step)) state
  match prepared with
  | .error error => return (some (.error error), state)
  | .ok () =>
  let (stopped, state) ← stopIfCancelled state
  if stopped then return (none, state) else
  let (result, state) ← reported (← ask (.tool claimed step)) state
  return (some result, state)

/-- The handler of a guardrail that wants an approval pauses the run; the others only name the
failure. -/
def handleFailure (state : AgentRuntimeState) : Except ToolError ToolResult → Task AgentRuntimeState
  | .error ⟨.guardrailApproval stage key _, _⟩ => pauseForGuardrailApproval state stage key
  | .error _ | .ok _ => return state

def closeApprovalExecution (state : AgentRuntimeState) (step : PlanStep)
    (observation : AgentObservation) : Task AgentRuntimeState :=
  match state.runtimeMetadata.activeApprovalExecution with
  | none => return state
  | some execution => do
    if execution.stepId ≠ some step.id then return state else
    if observation.failureClass = some "connector_reconnect_required" then return state else
    call (.updateApprovalExecution execution.approvalId
      (if observation.success then "applied" else "apply_failed"))
    return { state with
        runtimeMetadata := { state.runtimeMetadata with activeApprovalExecution := none } }

def withObservation (state : AgentRuntimeState) (step : PlanStep)
    (observation : AgentObservation) : AgentRuntimeState :=
  { state with
    observations :=
      state.observations.filter (fun item => item.actionId ≠ observation.actionId) ++ [observation]
    completedStepIds :=
      if observation.success ∧ step.id ∉ state.completedStepIds then
        state.completedStepIds ++ [step.id]
      else state.completedStepIds }

def leaseLost (state : AgentRuntimeState) (actionId reason : String) : Task AgentRuntimeState :=
  saveState
    { state with pendingUncertainActionId := some actionId, waitingReason := some reason }

def commitObservation (state : AgentRuntimeState) (claimed : AgentAction) (step : PlanStep)
    (observation : AgentObservation) : Task (Option AgentObservation × AgentRuntimeState) := do
  if ← call (.renewLease claimed.id claimed.leaseGeneration) then
    let committed := withObservation state step observation
    let payload := { committed with checkpointSequence := committed.checkpointSequence + 1 }
    match ← call (.commitObservation claimed.id claimed.leaseGeneration observation payload) with
    | none => return (none, ← leaseLost state claimed.id "action_commit_fence_rejected")
    | some sequence =>
      let state ← closeApprovalExecution { committed with checkpointSequence := sequence } step
        observation
      return (some observation, ← saveState state)
  else return (none, ← leaseLost state claimed.id "action_lease_lost_before_commit")

def claimLost (state : AgentRuntimeState) (action : AgentAction) : Task AgentRuntimeState := do
  match ← call (.getAction action.id) with
  | none => .raise
  | some current =>
    if current.status = .uncertain then waitForUncertainResolution state current else return state

def executeClaimed (state : AgentRuntimeState) (claimed : AgentAction) :
    Task (Option AgentObservation × AgentRuntimeState) := do
  let step := decisionStep claimed
  let (result, state) ← runTool { state with currentStepId := some step.id } claimed step
  match result with
  | none => return (none, state)
  | some result =>
  let state ← handleFailure state result
  let (stopped, state) ← stopIfCancelled state
  if stopped then return (none, state) else
  commitObservation state claimed step (observationOf claimed.id result)

def executeDurableAction (state : AgentRuntimeState) (action : AgentAction) :
    Task (Option AgentObservation × AgentRuntimeState) := do
  let (stopped, state) ← stopIfCancelled state
  if stopped then return (none, state) else
  match ← call (.claimAction action.id) with
  | none => return (none, ← claimLost state action)
  | some claimed =>
  let (stopped, state) ← stopIfCancelled state
  if stopped then return (none, state) else
  executeClaimed state claimed

/-- `_finalize_success`: the run succeeds unless it was cancelled while its sandbox closed. -/
def finalizeSuccess (state : AgentRuntimeState) : Task AgentRuntimeState := do
  let state ← times (← ask .runtimeSnapshot) saveState state
  let state ←
    if ← ask .pausedThreadSandbox then pure state else destroyRuntimeSandboxSession state
  if (← call .getRun) = .cancelled then saveState { state with status := .cancelled } else
  call (.updateRunStatus .succeeded)
  saveState { state with status := .succeeded, currentStepId := none }

def finalize (state : AgentRuntimeState) : Task AgentRuntimeState := do
  let response ← ask .finalResponse
  let state ← finalizeSuccess { state with finalResponseText := some response }
  if state.status ≠ .succeeded then return state else
  saveState { state with terminalEventEmitted := true }

end Taroai.Agent.Services
