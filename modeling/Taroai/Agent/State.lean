import Taroai.Domain
import Taroai.Store.AgentRecords

/-! The records of `agent/models.py` and `agent/state.py` as far as the graph of `agent/graph.py`
reads or writes them, for one run. A free-form dictionary of the source is a record of the items
that are read. -/

namespace Taroai.Agent

open Taroai.Store (ActionStatus)

inductive RunMode where
  | chat
  | workflow
  | autonomous
deriving DecidableEq, Repr

structure Run where
  mode : RunMode
  hasThread : Bool
deriving DecidableEq, Repr

inductive DecisionKind where
  | action
  | respond
  | requestInput
  | replan
deriving DecidableEq, Repr

structure AgentDecision where
  kind : DecisionKind
  rationaleSummary : String := ""
  actionKey : Option String := none
  toolName : Option String := none
  skillId : Option String := none
  /-- The item `result_mode` of the tool input. -/
  resultMode : Option String := none
  approvalRequired : Bool := false
  responseText : Option String := none
  verificationRequired : Bool := true
deriving DecidableEq, Repr

structure ToolOutput where
  stdout : String := ""
  exitCode : Option Int := none
  connectorId : Option String := none
deriving DecidableEq, Repr

structure AgentObservation where
  actionId : String
  success : Bool
  output : ToolOutput
  error : Option String
  safeError : Option String
  failureClass : Option String
deriving DecidableEq, Repr

inductive Outcome where
  | complete
  | repair
  | replan
  | waitUser
  | fail
deriving DecidableEq, Repr

structure AgentVerificationResult where
  outcome : Outcome
  feedback : String := ""
  evidence : List String := []
deriving DecidableEq, Repr

structure AgentAction where
  id : String
  cycleId : String
  actionKey : String
  decision : AgentDecision
  status : ActionStatus := .pending
  observation : Option AgentObservation := none
  leaseGeneration : Nat := 0
deriving DecidableEq, Repr

structure PlanStep where
  id : String
  toolName : String
  skillId : Option String
  approvalRequired : Bool
deriving DecidableEq, Repr

inductive Node where
  | observe
  | decide
  | policy
  | act
  | observeResult
  | verify
  | repair
  | replan
  | complete
  | waitUser
  | fail
deriving DecidableEq, Repr

inductive AgentGraphRoute where
  | to (node : Node)
  | ended
deriving DecidableEq, Repr

/-- The items of `compiled_playbook["result"]`. -/
structure CompiledResult where
  mode : String
  responseText : Option String
deriving DecidableEq, Repr

structure ApprovalExecution where
  approvalId : String
  stepId : Option String
deriving DecidableEq, Repr

structure RuntimeMetadata where
  attemptStartIteration : Nat := 0
  executionAttempt : Nat := 0
  prefetchedAction : Bool := false
  staticPlanLoaded : Bool := false
  staticPlanRetries : List (String × Nat) := []
  workflowPreviewPending : Bool := false
  trustedAuthoringActionCompleted : Bool := false
  conversationContextAnnounced : Bool := false
  lastRepairFailureSignature : Option String := none
  compiledPlaybook : Option CompiledResult := none
  activeApprovalExecution : Option ApprovalExecution := none
deriving DecidableEq, Repr

structure AgentRuntimeState where
  status : RunStatus
  currentStepId : Option String := none
  completedStepIds : List String := []
  approvedStepIds : List String := []
  pendingGuardrailApprovalKey : Option String := none
  pendingGuardrailApprovalStage : Option String := none
  approvalId : Option String := none
  failureReason : Option String := none
  iteration : Nat := 0
  maxIterations : Nat
  observations : List AgentObservation := []
  activePlanRevision : Nat := 1
  pendingActions : List AgentDecision := []
  verifierResult : Option AgentVerificationResult := none
  repairAttempts : Nat := 0
  replanCount : Nat := 0
  steeringMessages : List String := []
  checkpointSequence : Nat := 0
  maxRepairs : Nat
  lastDecision : Option AgentDecision := none
  finalResponseText : Option String := none
  pendingUncertainActionId : Option String := none
  waitingReason : Option String := none
  terminalEventEmitted : Bool := false
  graphRoute : AgentGraphRoute := .to .observe
  currentCycleId : Option String := none
  currentActionId : Option String := none
  graphFailureCode : Option String := none
  graphFailureDetail : Option String := none
  runtimeMetadata : RuntimeMetadata := {}
deriving DecidableEq, Repr

structure AgentCheckpoint where
  sequence : Nat
  statePayload : AgentRuntimeState
deriving DecidableEq, Repr

structure AgentRuntime where
  loopMaxIterations : Nat
  loopMaxRepairs : Nat
  maxStepRetries : Nat
deriving DecidableEq, Repr

/-- `text or default` -/
def orElseText (text : Option String) (default : String) : String :=
  match text with
  | some t => if t = "" then default else t
  | none => default

def given (text : Option String) : Bool := text.any fun t => t ≠ ""

/-- Cut at every occurrence of the separator, as `str.split` does. -/
def splitAt (separator : Char) : List Char → List (List Char)
  | [] => [[]]
  | c :: rest =>
    if c = separator then [] :: splitAt separator rest
    else
      match splitAt separator rest with
      | [] => [[c]]
      | part :: parts => (c :: part) :: parts

def keySegments (key : String) : List String := (splitAt ':' key.toList).map String.ofList

def startsWith (text start : String) : Bool := start.toList.isPrefixOf text.toList

/-- `isdigit` and `int` of a segment. -/
def digits? (segment : String) : Option Nat :=
  if segment ≠ "" ∧ segment.toList.all Char.isDigit then
    some (segment.toList.foldl (fun n c => 10 * n + (c.toNat - '0'.toNat)) 0)
  else none

def AgentDecision.planned (decision : AgentDecision) : Bool :=
  decision.actionKey.any fun key => startsWith key "planned:"

def AgentDecision.playbook (decision : AgentDecision) : Bool :=
  decision.actionKey.any fun key => startsWith key "playbook:"

def decisionStep (action : AgentAction) : PlanStep where
  id :=
    if action.decision.planned || action.decision.playbook then
      ((keySegments (action.decision.actionKey.getD "")).getD 1 "")
    else action.id
  toolName := action.decision.toolName.getD ""
  skillId := action.decision.skillId
  approvalRequired := action.decision.approvalRequired

/-- `_action_iteration`: the segment after the first `cycle` of the key, when it is a number. -/
def actionIteration (action : AgentAction) : Nat :=
  match (keySegments action.actionKey).dropWhile (fun segment => segment ≠ "cycle") with
  | _ :: segment :: _ => (digits? segment).getD 0
  | [_] | [] => 0

def toolFailureVerification (observation : AgentObservation) : AgentVerificationResult where
  outcome := .repair
  feedback :=
    orElseText observation.safeError (orElseText observation.error "Action failed")
  evidence := [
    if given observation.failureClass then
      observation.failureClass.map fun name => s!"failure_class: {name}"
    else none,
    if given observation.safeError then
      observation.safeError.map fun text => s!"safe_error: {text}"
    else none,
    if given observation.error && observation.error ≠ observation.safeError then
      observation.error.map fun text => s!"error: {text}"
    else none].reduceOption

def words (text : List Char) : List (List Char) :=
  (text.splitBy fun a b => a.isWhitespace == b.isWhitespace).filter fun part =>
    part.head?.all fun c => !c.isWhitespace

def failureSignature (result : AgentVerificationResult) : String :=
  let start := "failure_class: "
  let failureClass := ((result.evidence.find? fun item => startsWith item start).map
    fun item => String.ofList (item.toList.drop start.length)).getD ""
  let normalized := " ".intercalate ((words (result.feedback.toLower.toList)).map String.ofList)
  if failureClass = "" ∧ normalized = "" then "" else s!"{failureClass}|{normalized}"

end Taroai.Agent
