import Taroai.Agent.Services

/-! The nodes of `agent/nodes.py`. A node returns the state with the route it sets. -/

namespace Taroai.Agent.Nodes

open Services (stopIfCancelled saveState persistCheckpoint)

/-- `_route` -/
def route (state : AgentRuntimeState) (route : AgentGraphRoute) : AgentRuntimeState :=
  { state with graphRoute := route }

/-- `_failure` -/
def failure (state : AgentRuntimeState) (code : String) (detail : Option String) :
    AgentRuntimeState :=
  route { state with graphFailureCode := some code, graphFailureDetail := detail } (.to .fail)

def currentAction (state : AgentRuntimeState) : Task (Option AgentAction) :=
  match state.currentActionId with
  | none => return none
  | some actionId => do
    match ← call (.getAction actionId) with
    | none => .raise
    | some action => return some action

section Observe

variable (runtime : AgentRuntime) (run : Run)

def announceConversation (state : AgentRuntimeState) : Task AgentRuntimeState := do
  if run.hasThread ∧ state.runtimeMetadata.conversationContextAnnounced = false then
    saveState
      { state with
        runtimeMetadata := { state.runtimeMetadata with conversationContextAnnounced := true } }
  else return state

def recoveredObservations (observations : List AgentObservation) (actions : List AgentAction) :
    List AgentObservation :=
  let known := observations.map AgentObservation.actionId
  (actions.filterMap AgentAction.observation).filter fun item => item.actionId ∉ known

def adoptObservations (state : AgentRuntimeState) (actions : List AgentAction) :
    Task AgentRuntimeState := do
  let recovered := recoveredObservations state.observations actions
  if recovered = [] then return state else
  persistCheckpoint
    { state with
      observations := state.observations ++ recovered
      pendingUncertainActionId := none
      waitingReason := none }

def takeUp (state : AgentRuntimeState) (pending : AgentAction) : AgentRuntimeState :=
  { state with
    iteration := max state.iteration (actionIteration pending)
    currentCycleId := some pending.cycleId
    currentActionId := some pending.id
    lastDecision := some pending.decision
    currentStepId := some (decisionStep pending).id }

/-- Resume the first action that is not over, an uncertain or running one before a pending one. -/
def resumeActions (state : AgentRuntimeState) (actions : List AgentAction) :
    Task AgentRuntimeState := do
  match actions.find? fun item => item.status = .uncertain with
  | some uncertain =>
    let state ← Services.waitForUncertainResolution state uncertain
    return route state .ended
  | none =>
  if actions.any fun item => item.status = .running then
    let state ← saveState
      { state with waitingReason := some "action_is_owned_by_another_live_worker" }
    return route state .ended
  else
  match actions.find? fun item => item.status = .pending with
  | some pending => return route (takeUp state pending) (.to .policy)
  | none => return route state (.to .decide)

def recoverActions (state : AgentRuntimeState) : Task AgentRuntimeState := do
  let _ ← call .recoverExpiredActions
  let actions ← call .listActions
  let state ← adoptObservations state actions
  resumeActions state actions

def withLimits (state : AgentRuntimeState) : AgentRuntimeState :=
  { state with
    status := .running
    maxIterations := state.runtimeMetadata.attemptStartIteration + runtime.loopMaxIterations
    maxRepairs := runtime.loopMaxRepairs }

def observe (state : AgentRuntimeState) : Task AgentRuntimeState := do
  if (← call .getRun).terminal then return route state .ended else
  call (.updateRunStatus .running)
  let state ← saveState (withLimits runtime state)
  let policy ← ask .runtimeExecution
  if policy.allowed then
    let (loaded, state) ← Services.loadResources state
    match loaded with
    | .error text => return failure state "invalid_resource_reference" (some text)
    | .ok () =>
    let state ← announceConversation run state
    recoverActions state
  else
  let state ← Services.failForPolicyBlock state policy none
  return route state .ended

end Observe

section Decide

variable (run : Run)

def decideFailed (state : AgentRuntimeState) : ModelFailure → Task AgentRuntimeState
  | .guardrailApproval stage key => do
    let state ← Services.pauseForGuardrailApproval state stage key
    return route state .ended
  | .guardrailViolation reason message => return failure state reason (some message)
  | .budgetExceeded message => return failure state "model_budget_exceeded" (some message)
  | .policyDenied message => return failure state "model_policy_denied" (some message)
  | .safetyRefusal message => do
    let state ← Services.recordModelGatewayFailure state "model_safety_refusal" message
    return route state .ended
  | .gateway message => do
    let _ ← Services.recordModelGatewayFailure state "model_gateway_error" message
    .raise

def groundResponse (state : AgentRuntimeState) (text : String) :
    Task (Bool × AgentRuntimeState) := do
  if ← ask (.unsupportedUrls text) then
    if run.mode = .chat then
      match ← ask (.groundedResponse text) with
      | some grounded => return (false, { state with finalResponseText := some grounded })
      | none => return (true, state)
    else return (true, state)
  else return (false, state)

def unsupportedFeedback : String :=
  "The proposed response cites URLs that are absent from the conversation, retrieved context, " ++
    "and tool observations. Retrieve verifiable evidence with an available tool before " ++
    "responding, or remove the unsupported claims and URLs."

def rejectResponse (state : AgentRuntimeState) : AgentRuntimeState :=
  let result : AgentVerificationResult := { outcome := .replan, feedback := unsupportedFeedback }
  route { state with finalResponseText := none, verifierResult := some result } (.to .replan)

def acceptResponse (state : AgentRuntimeState) : AgentRuntimeState :=
  let result : AgentVerificationResult :=
    { outcome := .complete, feedback := "Independent verification was not required" }
  route { state with verifierResult := some result } (.to .complete)

def reviewResponse (state : AgentRuntimeState) (decision : AgentDecision) :
    Task AgentRuntimeState := do
  if decision.verificationRequired ∨ (run.mode ≠ .chat ∧ state.observations ≠ []) then
    let workflowTask ← ask .isWorkflowTask
    if decision.verificationRequired ∨
        (workflowTask = false ∧ state.runtimeMetadata.trustedAuthoringActionCompleted = false) then
      return route state (.to .verify)
    else return acceptResponse state
  else return acceptResponse state

def respond (state : AgentRuntimeState) (decision : AgentDecision) : Task AgentRuntimeState := do
  let text := decision.responseText.getD ""
  let (unsupported, state) ← groundResponse run { state with finalResponseText := some text } text
  if unsupported then return rejectResponse state else reviewResponse run state decision

def actionKeyOf (state : AgentRuntimeState) (decision : AgentDecision) : String :=
  let key := orElseText decision.actionKey s!"cycle:{state.iteration}:action"
  s!"attempt:{state.runtimeMetadata.executionAttempt}:{key}"

def proposeAction (state : AgentRuntimeState) (cycleId : String) (decision : AgentDecision) :
    Task AgentRuntimeState := do
  if given decision.toolName then
    let actionId ← ask .newId
    let action : AgentAction :=
      { id := actionId, cycleId, actionKey := actionKeyOf state decision, decision }
    if ← call (.createAction action) then
      return route
        { state with
          currentActionId := some actionId
          currentStepId := some (decisionStep action).id }
        (.to .policy)
    else .raise
  else
  let result : AgentVerificationResult :=
    { outcome := .fail, feedback := "Action decision did not include tool_name" }
  return failure { state with verifierResult := some result } "invalid_action_decision" none

def dispatch (state : AgentRuntimeState) (cycleId : String) (decision : AgentDecision) :
    Task AgentRuntimeState :=
  match decision.kind with
  | .requestInput =>
    let reason :=
      orElseText decision.responseText
        (orElseText (some decision.rationaleSummary) "More input is required")
    return route { state with finalResponseText := none, waitingReason := some reason }
      (.to .waitUser)
  | .replan =>
    let result : AgentVerificationResult :=
      { outcome := .replan, feedback := decision.rationaleSummary }
    return route { state with verifierResult := some result } (.to .replan)
  | .respond => respond run state decision
  | .action => proposeAction state cycleId decision

def followDecision (state : AgentRuntimeState) (cycleId : String) (decision : AgentDecision) :
    Task AgentRuntimeState := do
  if state.graphFailureCode.isSome then return route state (.to .fail) else
  if decision.kind = .action ∧ given decision.skillId ∧ decision.planned = false then
    let (loaded, state) ← Services.prepareSelectedSkill state decision
    match loaded with
    | .error text => return failure state "skill_load_failed" (some text)
    | .ok true =>
      let skillId := decision.skillId.getD ""
      let result : AgentVerificationResult :=
        { outcome := .replan
          feedback := s!"Skill {skillId} was loaded and materialized; " ++
            "decide the next action using its full instructions." }
      return route { state with verifierResult := some result } (.to .replan)
    | .ok false => dispatch run state cycleId decision
  else dispatch run state cycleId decision

def nextCycle (state : AgentRuntimeState) : AgentRuntimeState :=
  { state with
    iteration := state.iteration + 1
    currentCycleId := none
    currentActionId := none
    currentStepId := none
    verifierResult := none }

def startCycle (state : AgentRuntimeState) (cycleId : String) (decision : AgentDecision) :
    Task AgentRuntimeState := do
  if ← call (.createCycle cycleId state.iteration) then
    followDecision run { state with currentCycleId := some cycleId } cycleId decision
  else .raise

def decide (state : AgentRuntimeState) : Task AgentRuntimeState := do
  match ← Services.budgetFailure state with
  | some code => return failure state code none
  | none =>
  let (stopped, state) ← stopIfCancelled state
  if stopped then return route state .ended else
  let state ← Services.consumeSteeringAtCheckpoint run state
  let cycleId ← ask .newId
  let (decision, state) ← Services.decide run (nextCycle state)
  match decision with
  | .error failure => decideFailed state failure
  | .ok decision =>
  let (stopped, state) ← stopIfCancelled state
  if stopped then return route state .ended else
  startCycle run { state with lastDecision := some decision } cycleId decision

end Decide

def policy (state : AgentRuntimeState) : Task AgentRuntimeState := do
  let (stopped, state) ← stopIfCancelled state
  if stopped then return route state .ended else
  match ← currentAction state with
  | none => return failure state "missing_graph_action" none
  | some action =>
  let step := decisionStep action
  let state := { state with currentStepId := some step.id }
  let policy ← ask (.runtimeStep step)
  if policy.allowed then
    if ← Services.requiresApproval state action.decision step then
      let state ← Services.pauseForApproval state step
      return route state .ended
    else return route state (.to .act)
  else
  let state ← Services.failForPolicyBlock state policy (some step.id)
  return route state .ended

def act (state : AgentRuntimeState) : Task AgentRuntimeState := do
  let (stopped, state) ← stopIfCancelled state
  if stopped then return route state .ended else
  match ← currentAction state with
  | none => return failure state "missing_graph_action" none
  | some action =>
  let (observation, state) ← Services.executeDurableAction state action
  match observation with
  | none => return route state .ended
  | some _ => return route state (.to .observeResult)

section ObserveResult

variable (runtime : AgentRuntime) (run : Run)

def directResponse (state : AgentRuntimeState) (action : AgentAction) (stdout : String) :
    Option (String × String) :=
  match state.runtimeMetadata.compiledPlaybook with
  | some compiled =>
    if action.decision.playbook ∧
        (compiled.mode = "artifacts" ∨ (stdout ≠ "" ∧ stdout.length ≤ 4000)) then
      some
        (if compiled.mode = "raw_stdout" then stdout
          else orElseText compiled.responseText "Playbook completed.",
        "Compiled Playbook completed without a model call")
    else rawStdout
  | none => rawStdout
where
  rawStdout : Option (String × String) :=
    if run.mode = .chat ∧ action.decision.toolName = some "sandbox.command" ∧
        action.decision.resultMode = some "raw_stdout" ∧ stdout ≠ "" ∧ stdout.length ≤ 4000 then
      some (stdout, "Sandbox stdout was requested as the final response")
    else none

def forgetFailures (state : AgentRuntimeState) : AgentRuntimeState :=
  { state with
    runtimeMetadata := { state.runtimeMetadata with lastRepairFailureSignature := none } }

def respondDirectly (state : AgentRuntimeState) (response feedback : String) :
    AgentRuntimeState :=
  let result : AgentVerificationResult :=
    { outcome := .complete, feedback, evidence := ["sandbox.command completed successfully"] }
  route { state with finalResponseText := some response, verifierResult := some result }
    (.to .complete)

def succeeded (state : AgentRuntimeState) (action : AgentAction)
    (observation : AgentObservation) : AgentRuntimeState :=
  match directResponse run state action observation.output.stdout with
  | some (response, feedback) => respondDirectly (forgetFailures state) response feedback
  | none => route (forgetFailures state) (.to .decide)

/-- `_retry_static_action`: the state with the retry queued, when there is one left. -/
def retryStaticAction (state : AgentRuntimeState) (action : AgentAction) :
    Option AgentRuntimeState :=
  let stepId := (decisionStep action).id
  let retries := state.runtimeMetadata.staticPlanRetries
  let current := ((retries.find? fun item => item.1 = stepId).map Prod.snd).getD 0
  if runtime.maxStepRetries ≤ current then none
  else
    let nextAttempt := current + 1
    some
      { state with
        runtimeMetadata :=
          { state.runtimeMetadata with
            staticPlanRetries :=
              (stepId, nextAttempt) :: retries.filter fun item => item.1 ≠ stepId }
        pendingActions :=
          { action.decision with actionKey := some s!"planned:{stepId}:retry:{nextAttempt}" } ::
            state.pendingActions }

def planFailure (observation : AgentObservation) : String × Option String :=
  let code := orElseText observation.failureClass "tool_execution_error"
  let detail :=
    if given observation.safeError then observation.safeError else observation.error
  if code = "command_failed" then
    let exitCode := (observation.output.exitCode.map toString).getD "None"
    ("sandbox_command_failed", some s!"sandbox.command failed with exit code {exitCode}")
  else if detail = some "sandbox artifact path must be under /workspace/artifacts/" then
    ("sandbox_artifact_path_rejected", detail)
  else if detail = some "storage content rejected by scan policy" then
    ("storage_content_rejected", detail)
  else if code = "policy_blocked" then ("artifact_guardrail_blocked", detail)
  else (code, detail)

def repairFailure (state : AgentRuntimeState) (observation : AgentObservation) :
    AgentRuntimeState :=
  route { state with verifierResult := some (toolFailureVerification observation) } (.to .repair)

def planStepFailed (state : AgentRuntimeState) (action : AgentAction)
    (observation : AgentObservation) : AgentRuntimeState :=
  if action.decision.planned ∧ observation.failureClass = some "tool_execution_error" then
    match retryStaticAction runtime state action with
    | some state => repairFailure state observation
    | none => failPlan state
  else failPlan state
where
  failPlan (state : AgentRuntimeState) : AgentRuntimeState :=
    failure state (planFailure observation).1 (planFailure observation).2

def failed (state : AgentRuntimeState) (action : AgentAction) (observation : AgentObservation) :
    Task AgentRuntimeState := do
  if observation.failureClass = some "connector_reconnect_required" then
    let state ← Services.pauseForConnectorReconnect state action observation
    return route state .ended
  else if observation.failureClass = some "guardrail_approval_required" then
    return route state .ended
  else if observation.failureClass = some "approval_required" then
    let state ← Services.pauseForApproval state (decisionStep action)
    return route state .ended
  else if action.decision.planned || action.decision.playbook then
    return planStepFailed runtime state action observation
  else return repairFailure state observation

def observationOf (state : AgentRuntimeState) (actionId : String) : Option AgentObservation :=
  state.observations.reverse.find? fun item => item.actionId = actionId

def observeResult (state : AgentRuntimeState) : Task AgentRuntimeState := do
  let (stopped, state) ← stopIfCancelled state
  if stopped then return route state .ended else
  match ← currentAction state with
  | none => return failure state "missing_graph_action" none
  | some action =>
  match observationOf state action.id with
  | none => return failure state "missing_action_observation" none
  | some observation =>
  if observation.success then return succeeded run state action observation else
  failed runtime state action observation

end ObserveResult

def outcomeRoute : Outcome → AgentGraphRoute
  | .complete => .to .complete
  | .repair => .to .repair
  | .replan => .to .replan
  | .waitUser => .to .waitUser
  | .fail => .to .fail

def unavailableFeedback : String :=
  "Independent verification was unavailable. Return a conservative response without claimed " ++
    "actions or unsupported facts; when no matching connector exists, state that nothing was " ++
    "performed and name the required connection."

/-- A chat response that no verifier saw is made again; anything else fails the run. -/
def verifierUnavailable (run : Run) (state : AgentRuntimeState) (decision : AgentDecision)
    (message : String) : Task AgentRuntimeState := do
  if run.mode = .chat ∧ decision.kind = .respond then
    let result : AgentVerificationResult := { outcome := .replan, feedback := unavailableFeedback }
    return route { state with finalResponseText := none, verifierResult := some result }
      (.to .replan)
  else
  let _ ← Services.recordModelGatewayFailure state "model_gateway_error" message
  .raise

def verifyFailed (run : Run) (state : AgentRuntimeState) (decision : AgentDecision) :
    ModelFailure → Task AgentRuntimeState
  | .budgetExceeded message => return failure state "model_budget_exceeded" (some message)
  | .policyDenied message => return failure state "model_policy_denied" (some message)
  | .safetyRefusal message => do
    let state ← Services.recordModelGatewayFailure state "model_safety_refusal" message
    return route state .ended
  | .gateway message => verifierUnavailable run state decision message
  | .guardrailApproval _ _ | .guardrailViolation _ _ => .raise

def follow (state : AgentRuntimeState) (result : AgentVerificationResult) : AgentRuntimeState :=
  route
    { state with
      finalResponseText := if result.outcome = .complete then state.finalResponseText else none
      waitingReason :=
        if result.outcome = .waitUser then
          some (orElseText (some result.feedback) "More input is required")
        else state.waitingReason }
    (outcomeRoute result.outcome)

def verify (run : Run) (state : AgentRuntimeState) : Task AgentRuntimeState := do
  let (stopped, state) ← stopIfCancelled state
  if stopped then return route state .ended else
  match state.lastDecision with
  | none => return failure state "missing_graph_decision" none
  | some decision =>
  let (result, state) ← Services.verify run state decision
  match result with
  | .error failure => verifyFailed run state decision failure
  | .ok result =>
  let (stopped, state) ← stopIfCancelled state
  if stopped then return route state .ended else
  return follow state result

def escalatedFeedback (feedback : String) : String :=
  "The previous approach failed twice in a row with the " ++
    s!"identical failure: {feedback}. Do not retry the " ++
    "same approach or tool call with the same inputs. Choose a different approach or tool, or " ++
    "respond truthfully about the limitation."

/-- Count the repair; the second failure in a row with one signature asks for another approach. -/
def countRepair (state : AgentRuntimeState) : AgentRuntimeState :=
  let result : AgentVerificationResult :=
    state.verifierResult.getD { outcome := .repair, feedback := "Repair required" }
  let signature := failureSignature result
  let trackable : Bool := signature ≠ "" && state.lastDecision.all fun item => !item.planned
  let state : AgentRuntimeState := { state with repairAttempts := state.repairAttempts + 1 }
  if trackable ∧ state.runtimeMetadata.lastRepairFailureSignature = some signature then
    { state with
      runtimeMetadata := { state.runtimeMetadata with lastRepairFailureSignature := none }
      activePlanRevision := state.activePlanRevision + 1
      replanCount := state.replanCount + 1
      verifierResult := some { result with feedback := escalatedFeedback result.feedback } }
  else if trackable then
    { state with
      runtimeMetadata :=
        { state.runtimeMetadata with lastRepairFailureSignature := some signature } }
  else state

def repair (state : AgentRuntimeState) : Task AgentRuntimeState := do
  let (stopped, state) ← stopIfCancelled state
  if stopped then return route state .ended else
  let state ← persistCheckpoint (countRepair state)
  if state.maxRepairs < state.repairAttempts then
    return failure state "repair_budget_exhausted" none
  else return route state (.to .decide)

def replan (state : AgentRuntimeState) : Task AgentRuntimeState := do
  let (stopped, state) ← stopIfCancelled state
  if stopped then return route state .ended else
  let state ← persistCheckpoint
    { forgetFailures state with
      activePlanRevision := state.activePlanRevision + 1
      replanCount := state.replanCount + 1 }
  return route state (.to .decide)

def complete (state : AgentRuntimeState) : Task AgentRuntimeState := do
  let (stopped, state) ← stopIfCancelled state
  if stopped then return route state .ended else
  let state ← Services.finalize state
  return route state .ended

def waitUser (state : AgentRuntimeState) : Task AgentRuntimeState := do
  let (stopped, state) ← stopIfCancelled state
  if stopped then return route state .ended else
  match state.currentCycleId with
  | none => return failure state "missing_graph_cycle" none
  | some _ =>
  let state ← Services.waitForUser state (orElseText state.waitingReason "More input is required")
  return route state .ended

def fail (state : AgentRuntimeState) : Task AgentRuntimeState := do
  let (stopped, state) ← stopIfCancelled state
  if stopped then return route state .ended else
  let reason := orElseText state.graphFailureCode "agent_graph_failed"
  let state ← Services.fail state reason state.graphFailureDetail
    (reason = "elapsed_budget_exhausted")
  return route state .ended

end Taroai.Agent.Nodes
