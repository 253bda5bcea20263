import Mathlib.Data.List.Dedup
import Taroai.Governance.Guardrails
import Taroai.Governance.Schema
import Taroai.Lib.Raising

/-! `ToolGateway.execute_request` of `tool_gateway/service.py`. The state of a run is the list
of requests that handlers were called with, so that "the handler runs" can be said. The
guardrail service, the secret service and the handlers are whatever the gateway was given;
each may raise. Audit records are left out. -/

namespace Taroai.Governance

open Json Raising

structure ToolSecretRequirement where
  secretId : String
  actions : List String := []
  ttlSeconds : Nat := 300

structure ToolGatewayRequest (Lease : Type) where
  tenantId : String
  workspaceId : String
  userId : String
  runId : String
  threadId : Option String := none
  stepId : String
  toolName : String
  skillId : Option String := none
  toolInput : Items := []
  grantedScopes : List String := []
  secretLeases : List Lease := []
  approved : Bool := false

structure ToolPolicy where
  toolName : String
  requiredScopes : List String := []
  secretRequirements : List ToolSecretRequirement := []
  approvalRequired : Bool := false
  enabled : Bool := true
  inputSchema : Items := [("type", .text "object")]
  outputSchema : Items := [("type", .text "object")]

structure ToolPolicyDecision where
  allowed : Bool
  approvalRequired : Bool := false
  reason : Option String := none
  missingScopes : List String := []

structure ToolResult where
  toolName : String
  output : Items := []

inductive ToolGatewayError where
  | execution (message : String)
  | approvalRequired (message : String)
  | schemaValidation (message : String)
  | guardrail (error : GuardrailError)
  | schema (error : SchemaError)
  | secret
  | handler
  | result

inductive HandlerAnswer where
  | result (result : ToolResult)
  | dict (items : Items)

/-- `ToolResult.model_validate`. -/
def ToolResult.modelValidate (items : Items) : Except ToolGatewayError ToolResult :=
  match items.get? "tool_name", items.get? "output" with
  | some (.text toolName), none => .ok { toolName := toolName }
  | some (.text toolName), some (.dict output) => .ok { toolName := toolName, output := output }
  | _, _ => .error .result

abbrev ToolHandler (Lease : Type) :=
  ToolGatewayRequest Lease → Except ToolGatewayError HandlerAnswer

abbrev GuardrailService := GuardrailEvaluationRequest → Except GuardrailError GuardrailDecision

/-- `create_lease`: a lease, a refusal (`SecretAccessDeniedError`, `SecretNotFoundError`), or
another exception. -/
abbrev SecretService (Lease : Type) :=
  ToolGatewayRequest Lease → ToolSecretRequirement → Option String →
    Except ToolGatewayError (Except String Lease)

structure ToolGateway (Lease : Type) where
  policies : String → Option ToolPolicy
  handlers : String → Option (ToolHandler Lease)
  secretService : Option (SecretService Lease) := none
  guardrailService : Option GuardrailService := none

/-- How Python writes a value into a text, what its float texts are, and its text rules. -/
structure PythonTexts extends TextRules where
  format : Json → String
  float : Rat → String

namespace ToolGateway

variable {Lease : Type} (texts : PythonTexts)

abbrev Op (Lease α : Type) := Raising ToolGatewayError (List (ToolGatewayRequest Lease)) α

def registerTool (gateway : ToolGateway Lease) (policy : ToolPolicy) (handler : ToolHandler Lease) :
    ToolGateway Lease :=
  { gateway with
    policies := fun name => if name = policy.toolName then some policy else gateway.policies name
    handlers := fun name => if name = policy.toolName then some handler else gateway.handlers name }

/-- `sorted(set(required) - set(granted))`. -/
def missingScopes (policy : ToolPolicy) (request : ToolGatewayRequest Lease) : List String :=
  (policy.requiredScopes.filter fun scope => scope ∉ request.grantedScopes).dedup.insertionSort
    fun a b => a ≤ b

def checkPolicy (gateway : ToolGateway Lease) (request : ToolGatewayRequest Lease) :
    ToolPolicyDecision :=
  match gateway.policies request.toolName with
  | none =>
    { allowed := false
      reason := some ("Tool is not registered: " ++ request.toolName) }
  | some policy =>
    if policy.enabled = false then
      { allowed := false
        reason := some ("Tool is disabled: " ++ request.toolName) }
    else
      let missing := missingScopes policy request
      if missing ≠ [] then
        { allowed := false
          reason := some ("Tool is not permitted: missing scopes: " ++ ", ".intercalate missing)
          missingScopes := missing }
      else { allowed := true, approvalRequired := policy.approvalRequired }

def optionalText : Option String → Json
  | none => .null
  | some s => .text s

def toolInputContent (toolInput : Items) : String :=
  String.ofList (dumps { sortKeys := true, float := texts.float } (.dict toolInput))

def toolInputAttributes (request : ToolGatewayRequest Lease) : Items :=
  [("tool_name", .text request.toolName), ("skill_id", optionalText request.skillId),
    ("tenant_id", .text request.tenantId), ("workspace_id", .text request.workspaceId),
    ("user_id", .text request.userId), ("run_id", .text request.runId),
    ("step_id", .text request.stepId)].foldl (fun items item => items.set item.1 item.2)
      request.toolInput

def evaluationRequest (request : ToolGatewayRequest Lease) : GuardrailEvaluationRequest where
  tenantId := request.tenantId
  workspaceId := some request.workspaceId
  stage := .toolRequest
  content := toolInputContent texts request.toolInput
  attributes := toolInputAttributes request

/-- `_apply_guardrail_redactions`, on every string of the input. -/
def redactInput (redactions : List GuardrailRedaction) (toolInput : Items) :
    Except GuardrailError Items :=
  mapItems (applyRedactions texts.toTextRules redactions) toolInput

def messageOr (message : Option String) (default : String) : String :=
  match message with
  | none | some "" => default
  | some given => given

def applyGuardrails (gateway : ToolGateway Lease) (request : ToolGatewayRequest Lease) :
    Except ToolGatewayError (ToolGatewayRequest Lease) :=
  match gateway.guardrailService with
  | none => .ok request
  | some service => do
    let decision ← (service (evaluationRequest texts request)).mapError .guardrail
    if decision.blocked then
      throw (.execution (messageOr decision.message
        ("Tool is blocked by guardrail: " ++ request.toolName)))
    if decision.approvalRequired && !request.approved then
      throw (.approvalRequired (messageOr decision.message
        ("Tool approval required: " ++ request.toolName)))
    if decision.action = .redact ∧ decision.redactions ≠ [] then do
      let redacted ← (redactInput texts decision.redactions request.toolInput).mapError .guardrail
      return { request with toolInput := redacted }
    else return request

def leaseSessionId (request : ToolGatewayRequest Lease) : Option String :=
  match request.toolInput.get? "session_id" with
  | none | some .null => none
  | some value => some (texts.format value)

def createLeases (service : SecretService Lease) (request : ToolGatewayRequest Lease) :
    List ToolSecretRequirement → Except ToolGatewayError (List Lease)
  | [] => .ok []
  | requirement :: rest => do
    match ← service request requirement (leaseSessionId texts request) with
    | .error message => throw (.execution message)
    | .ok lease => do
      let others ← createLeases service request rest
      return lease :: others

def withSecretLeases (gateway : ToolGateway Lease) (request : ToolGatewayRequest Lease)
    (policy : ToolPolicy) : Except ToolGatewayError (ToolGatewayRequest Lease) :=
  if policy.secretRequirements = [] then .ok request
  else
    match gateway.secretService with
    | none => .error (.execution "secret service is not configured")
    | some service => do
      let leases ← createLeases texts service request policy.secretRequirements
      return { request with secretLeases := leases }

def validatePayload (direction : String) (payload schema : Items) :
    Except ToolGatewayError Unit := do
  let errors ← (Schema.validate texts.format schema (.dict payload)).mapError .schema
  if errors ≠ [] then
    throw (.schemaValidation ("tool " ++ direction ++ " is invalid: " ++ "; ".intercalate errors))

def lift {α : Type} (result : Except ToolGatewayError α) : Op Lease α := fun calls => (result, calls)

def executeRequest (gateway : ToolGateway Lease) (request : ToolGatewayRequest Lease) :
    Op Lease ToolResult := do
  let decision := gateway.checkPolicy request
  ensure (decision.allowed = true) (.execution (messageOr decision.reason
    ("Tool is not permitted: " ++ request.toolName)))
  ensure (decision.approvalRequired = true → request.approved = true)
    (.approvalRequired ("Tool approval required: " ++ request.toolName))
  let request ← lift (gateway.applyGuardrails texts request)
  match gateway.handlers request.toolName, gateway.policies request.toolName with
  | some handler, some policy => do
    let request ← lift (gateway.withSecretLeases texts request policy)
    lift (validatePayload texts "input" request.toolInput policy.inputSchema)
    update fun calls => calls ++ [request]
    let answer ← lift (handler request)
    let result ← match answer with
      | .result result => lift (.ok result)
      | .dict items => lift (ToolResult.modelValidate items)
    lift (validatePayload texts "output" result.output policy.outputSchema)
    return result
  | _, _ => raise (.execution ("Tool handler is not registered: " ++ request.toolName))

end ToolGateway

end Taroai.Governance
