import Taroai.Agent.State
import Taroai.Lib.Program

/-! What the nodes and services of the agent call: the store of the run, and questions to the
code around it whose answers the nodes act on (models, tools, policies, clocks). -/

namespace Taroai.Agent

inductive ModelFailure where
  | guardrailApproval (stage key : String)
  | guardrailViolation (reason message : String)
  | budgetExceeded (message : String)
  | policyDenied (message : String)
  | safetyRefusal (message : String)
  | gateway (message : String)
deriving DecidableEq, Repr

inductive ToolFailure where
  | approvalRequired (message : String)
  | execution (message : String)
  | credentialExpired (connectorId : String)
  | guardrailApproval (stage key message : String)
  | guardrailViolation (message : String)
  | other (message : String)
deriving DecidableEq, Repr

structure PolicyDecision where
  allowed : Bool
  reason : Option String := none
deriving DecidableEq, Repr

/-- What a service did that saves the state any number of times and may raise at the end. -/
structure Report (ε α : Type) where
  saves : Nat := 0
  result : Except ε α

structure ToolResult where
  output : ToolOutput
  /-- The exit code of a sandbox command that failed. -/
  failedExitCode : Option Int := none
deriving DecidableEq, Repr

structure ToolError where
  failure : ToolFailure
  output : Option ToolOutput := none
deriving DecidableEq, Repr

/-- The decision of the model after the corrections of the loop. A repeated failing call leaves
its failure class and text. -/
structure Proposal where
  decision : AgentDecision
  repeatedFailure : Option (String × String) := none
  authoredDraft : Bool := false
deriving DecidableEq, Repr

inductive Question where
  | newId
  | runtimeExecution
  | runtimeStep (step : PlanStep)
  | agentContext
  | explicitSkillRefs
  | deadlinePassed
  | costExhausted
  | steeringMessages
  | plan
  | model
  | selectedSkill (decision : AgentDecision)
  | unsupportedUrls (text : String)
  | groundedResponse (text : String)
  | isWorkflowTask
  | requiresApproval (step : PlanStep)
  | createApprovalRequest (stepId : String)
  | preservesCurrentStep
  | preparedStep (step : PlanStep)
  /-- The step with its session, of the action under the lease it was claimed with. -/
  | tool (claimed : AgentAction) (step : PlanStep)
  | connectorUsesOauth (connectorId : String)
  | verifier
  | finalResponse
  | runtimeSnapshot
  | pausedThreadSandbox
  | sandboxDestroyed
deriving DecidableEq, Repr

/-- The answers; of `model` and `verifier` nothing where the model gateway implements neither. -/
@[reducible] def Question.Answer : Question → Type
  | newId => String
  | runtimeExecution => PolicyDecision
  | runtimeStep _ => PolicyDecision
  | agentContext => Report String Unit
  | explicitSkillRefs => Report String Unit
  | deadlinePassed => Bool
  | costExhausted => Bool
  | steeringMessages => List String
  | plan => Except ModelFailure (List PlanStep)
  | model => Report ModelFailure (Option Proposal)
  | selectedSkill _ => Report String Bool
  | unsupportedUrls _ => Bool
  | groundedResponse _ => Option String
  | isWorkflowTask => Bool
  | requiresApproval _ => Bool
  | createApprovalRequest _ => String
  | preservesCurrentStep => Bool
  | preparedStep _ => Report ToolError Unit
  | tool _ _ => Report ToolError ToolResult
  | connectorUsesOauth _ => Bool
  | verifier => Except ModelFailure (Option AgentVerificationResult)
  | finalResponse => String
  | runtimeSnapshot => Nat
  | pausedThreadSandbox => Bool
  | sandboxDestroyed => Nat

inductive Call where
  | getRun
  | isCancelled
  | updateRunStatus (status : RunStatus)
  | loadState
  | saveState (state : AgentRuntimeState)
  | latestCheckpoint
  | createCheckpoint (sequence : Nat) (statePayload : AgentRuntimeState)
  | createCycle (cycleId : String) (iteration : Nat)
  | recoverExpiredActions
  | listActions
  | createAction (action : AgentAction)
  | getAction (actionId : String)
  | claimAction (actionId : String)
  | renewLease (actionId : String) (leaseGeneration : Nat)
  | commitObservation (actionId : String) (leaseGeneration : Nat) (observation : AgentObservation)
      (statePayload : AgentRuntimeState)
  | cancelAction (actionId : String)
  | pauseForReconnect (actionId connectorId : String)
  | updateApprovalExecution (approvalId status : String)
  | ask (question : Question)

/-- The answers: a Boolean where the store either takes a write or raises, the new sequence of a
commit or nothing on a lease conflict. -/
@[reducible] def Call.Answer : Call → Type
  | getRun => RunStatus
  | isCancelled => Bool
  | updateRunStatus _ => Unit
  | loadState => Option AgentRuntimeState
  | saveState _ => Unit
  | latestCheckpoint => Option AgentCheckpoint
  | createCheckpoint _ _ => Bool
  | createCycle _ _ => Bool
  | recoverExpiredActions => List String
  | listActions => List AgentAction
  | createAction _ => Bool
  | getAction _ => Option AgentAction
  | claimAction _ => Option AgentAction
  | renewLease _ _ => Bool
  | commitObservation _ _ _ _ => Option Nat
  | cancelAction _ => Unit
  | pauseForReconnect _ _ => Bool
  | updateApprovalExecution _ _ => Unit
  | ask question => question.Answer

abbrev Task (α : Type) := Program Call Call.Answer α

abbrev Environment := (call : Call) → call.Answer

def call (c : Call) : Task c.Answer := .perform c

def ask (question : Question) : Task question.Answer := call (.ask question)

end Taroai.Agent
