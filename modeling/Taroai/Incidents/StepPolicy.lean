import Taroai.Agent.Routes
import Taroai.Incidents.Quarantine

/-! The policy check of a proposed step: `AgentRuntime._decide_runtime_step`, which fills the
context from the step, and the node `policy`, behind which alone the tool is invoked. A control
names more steps than the context shows: the connector of a tool and the risk of its capability
stand in the tool's name and in the registry, and an identifier of blanks counts as missing. -/

namespace Taroai.Incidents

open Json (Items)

inductive ToolRiskLevel where
  | low
  | medium
  | high
  | critical
deriving DecidableEq, Repr

def ToolRiskLevel.value : ToolRiskLevel → String
  | low => "low"
  | medium => "medium"
  | high => "high"
  | critical => "critical"

structure ConnectorCapability where
  name : String
  riskLevel : ToolRiskLevel := .low
  enabled : Bool := true
deriving DecidableEq, Repr

structure ConnectorDefinition where
  id : String
  tenantId : String
  workspaceId : String
  capabilities : List ConnectorCapability
  enabled : Bool := true
deriving DecidableEq, Repr

structure Run where
  id : String
  tenantId : String
  workspaceId : String
  userId : String
  agentId : Option String := none
deriving DecidableEq, Repr

structure PlanStep extends Agent.PlanStep where
  toolInput : Items := []

def splitDots (chars : List Char) : Option (List Char × List Char × List Char) :=
  match chars.span (· ≠ '.') with
  | (_, []) => none
  | (first, _ :: rest) =>
    match rest.span (· ≠ '.') with
    | (_, []) => none
    | (second, _ :: third) => some (first, second, third)

/-- `_parse_connector_tool` -/
def parseConnectorTool (toolName : String) : Option (String × String) :=
  match splitDots toolName.toList with
  | none => none
  | some (first, connectorId, capabilityName) =>
    if String.ofList first = "connector" ∧ connectorId ≠ [] ∧ capabilityName ≠ [] then
      some (String.ofList connectorId, String.ofList capabilityName)
    else none

/-- `_tool_name` -/
def connectorToolName (connectorId capabilityName : String) : String :=
  "connector." ++ connectorId ++ "." ++ capabilityName

theorem span_dot {first rest : List Char} (plain : '.' ∉ first) :
    (first ++ '.' :: rest).span (· ≠ '.') = (first, '.' :: rest) := by
  have each : ∀ c ∈ first, decide (c ≠ '.') = true := fun c member => by
    simpa using fun same : c = '.' => plain (same ▸ member)
  rw [List.span_eq_takeWhile_dropWhile, List.takeWhile_append_of_pos each,
    List.dropWhile_append_of_pos each]
  simp

theorem splitDots_parts {first second third : List Char} (plain : '.' ∉ first)
    (plain' : '.' ∉ second) :
    splitDots (first ++ '.' :: (second ++ '.' :: third)) = some (first, second, third) := by
  simp only [splitDots, span_dot plain, span_dot plain']

theorem parseConnectorTool_name {connectorId capabilityName : String}
    (plain : '.' ∉ connectorId.toList) (named : connectorId ≠ "") (capability : capabilityName ≠ "") :
    parseConnectorTool (connectorToolName connectorId capabilityName) =
      some (connectorId, capabilityName) := by
  have parts : splitDots (connectorToolName connectorId capabilityName).toList =
      some ("connector".toList, connectorId.toList, capabilityName.toList) := by
    rw [← splitDots_parts (by decide) plain]
    simp [connectorToolName]
  have written (text : String) (given : text ≠ "") : text.toList ≠ [] := by
    simpa using given
  simp [parseConnectorTool, parts, written _ named, written _ capability]
/-- What the policy check and the dispatch of a tool read of the runtime: the risk level of the
policies of the tool gateway, the connectors and the policy service. -/
structure Runtime where
  toolRisk : String → Option ToolRiskLevel := fun _ => none
  connectors : Table ConnectorDefinition.id := .empty
  policyService : Option OperationalPolicyService := none

namespace Runtime

variable (runtime : Runtime) (run : Run) (step : PlanStep)

def policyRequest : PolicyRequest :=
  let riskLevel := (runtime.toolRisk step.toolName).map ToolRiskLevel.value
  let text (value : Option String) : Json := (value.map Json.text).getD .null
  { tenantId := run.tenantId
    workspaceId := some run.workspaceId
    userId := run.userId
    runId := some run.id
    action := "runtime.step.execute"
    resource := "tool:" ++ step.toolName
    riskLevel := riskLevel
    context := [
      ("agent_id", text run.agentId),
      ("tool_name", .text step.toolName),
      ("skill_id", text step.skillId),
      ("connector_id", (step.toolInput.get? "connector_id").getD .null),
      ("external_write", .bool (isTrue (step.toolInput.get? "external_write"))),
      ("risk_level", text riskLevel),
      ("trigger_id", (step.toolInput.get? "trigger_id").getD .null),
      ("step_id", .text step.id)] }

/-- `_decide_runtime_step` -/
def decideRuntimeStep : PolicyDecision :=
  match runtime.policyService with
  | none => .allow
  | some service => service.decideRuntimeStep (runtime.policyRequest run step)

/-- The capability of a connector that the name of a tool stands for, where the dispatch of the
tool would come to it. -/
def connectorTool (toolName : String) : Option (ConnectorDefinition × ConnectorCapability) := do
  let (connectorId, capabilityName) ← parseConnectorTool toolName
  let connector ← runtime.connectors.get? connectorId
  if connector.tenantId = run.tenantId ∧ connector.workspaceId = run.workspaceId ∧
      connector.enabled then
    let capability ← connector.capabilities.find? fun c => c.name = capabilityName
    if capability.enabled then some (connector, capability) else none
  else none

end Runtime

def ToolRiskLevel.isHigh (risk : ToolRiskLevel) : Prop := risk = .high ∨ risk = .critical

inductive Control where
  | quarantine (targetType : QuarantineTargetType) (targetId : String)
  | killSwitch (scope : KillSwitchScope)

def Control.InForce (service : OperationalControlService) (tenantId : String) : Control → Prop
  | quarantine targetType targetId => service.Quarantined tenantId targetType targetId
  | killSwitch scope => service.Killed tenantId scope

section Named

variable (runtime : Runtime) (run : Run) (step : PlanStep)

def Control.Names : Control → Prop
  | quarantine .tenant id => id = run.tenantId
  | quarantine .run id => id = run.id
  | quarantine .agent id => run.agentId = some id
  | quarantine .skill id => step.skillId = some id
  | quarantine .connector id =>
    (∃ tool, runtime.connectorTool run step.toolName = some tool ∧ tool.1.id = id) ∨
      step.toolInput.get? "connector_id" = some (.text id)
  | quarantine .trigger _ => False
  | killSwitch .highRiskTools =>
    (∃ risk, runtime.toolRisk step.toolName = some risk ∧ risk.isHigh) ∨
      ∃ tool, runtime.connectorTool run step.toolName = some tool ∧ tool.2.riskLevel.isHigh
  | killSwitch .sandboxCreation => step.toolName = "sandbox.command"
  | killSwitch .externalWrites | killSwitch .modelProviders => False

def Control.Shows : Control → Prop
  | quarantine .tenant id => id = run.tenantId
  | quarantine .run id => id = run.id
  | quarantine .agent id => run.agentId = some id ∧ HasText id
  | quarantine .skill id => step.skillId = some id ∧ HasText id
  | quarantine .connector id => step.toolInput.get? "connector_id" = some (.text id) ∧ HasText id
  | quarantine .trigger id => step.toolInput.get? "trigger_id" = some (.text id) ∧ HasText id
  | killSwitch .highRiskTools => ∃ risk, runtime.toolRisk step.toolName = some risk ∧ risk.isHigh
  | killSwitch .sandboxCreation => step.toolName = "sandbox.command"
  | killSwitch .externalWrites => step.toolInput.get? "external_write" = some (.bool true)
  | killSwitch .modelProviders => False

end Named

section Request

variable {runtime : Runtime} {run : Run} {step : PlanStep} {service : OperationalControlService}

theorem getD_eq_text {value : Option String} {found : String} :
    some ((value.map Json.text).getD .null) = some (Json.text found) ↔ value = some found := by
  cases value <;> simp

theorem getD_null_eq_text {value : Option Json} {found : String} :
    some (value.getD .null) = some (Json.text found) ↔ value = some (.text found) := by
  cases value <;> simp

theorem agentId_shown {id : String} :
    contextValue (runtime.policyRequest run step) "agent_id" = some id ↔
      run.agentId = some id ∧ HasText id := by
  rw [contextValue_eq_some]
  exact and_congr_left fun _ => getD_eq_text

theorem skillId_shown {id : String} :
    contextValue (runtime.policyRequest run step) "skill_id" = some id ↔
      step.skillId = some id ∧ HasText id := by
  rw [contextValue_eq_some]
  exact and_congr_left fun _ => getD_eq_text

theorem connectorId_shown {id : String} :
    contextValue (runtime.policyRequest run step) "connector_id" = some id ↔
      step.toolInput.get? "connector_id" = some (.text id) ∧ HasText id := by
  rw [contextValue_eq_some]
  exact and_congr_left fun _ => getD_null_eq_text

theorem triggerId_shown {id : String} :
    contextValue (runtime.policyRequest run step) "trigger_id" = some id ↔
      step.toolInput.get? "trigger_id" = some (.text id) ∧ HasText id := by
  rw [contextValue_eq_some]
  exact and_congr_left fun _ => getD_null_eq_text

theorem toolName_shown :
    contextValue (runtime.policyRequest run step) "tool_name" = some "sandbox.command" ↔
      step.toolName = "sandbox.command" := by
  rw [contextValue_eq_some]
  constructor
  · rintro ⟨found, -⟩
    exact Json.text.inj (Option.some.inj found)
  · intro named
    exact ⟨congrArg (some ∘ Json.text) named, ⟨'s', by simp, rfl⟩⟩

theorem sandboxCreation_allowed :
    (service.sandboxCreationKillSwitchDecision (runtime.policyRequest run step)).allowed = true ↔
      (step.toolName = "sandbox.command" → ¬service.Killed run.tenantId .sandboxCreation) :=
  PolicyDecision.guarded_allowed toolName_shown OperationalControlService.killSwitchDecision_allowed

theorem riskLevel_policyRequest :
    OperationalControlService.riskLevel (runtime.policyRequest run step) =
      (runtime.toolRisk step.toolName).map ToolRiskLevel.value := by
  unfold OperationalControlService.riskLevel
  cases risk : runtime.toolRisk step.toolName with
  | none => simp [Runtime.policyRequest, risk, contextValue, Json.Items.get?]
  | some level => cases level <;> simp [Runtime.policyRequest, risk, ToolRiskLevel.value]

theorem highRiskTools_allowed :
    (service.highRiskToolsKillSwitchDecision (runtime.policyRequest run step)).allowed = true ↔
      ((∃ risk, runtime.toolRisk step.toolName = some risk ∧ risk.isHigh) →
        ¬service.Killed run.tenantId .highRiskTools) := by
  have high : (OperationalControlService.riskLevel (runtime.policyRequest run step) = some "high" ∨
      OperationalControlService.riskLevel (runtime.policyRequest run step) = some "critical") ↔
      ∃ risk, runtime.toolRisk step.toolName = some risk ∧ risk.isHigh := by
    rw [riskLevel_policyRequest]
    cases runtime.toolRisk step.toolName with
    | none => simp
    | some level => cases level <;> simp [ToolRiskLevel.value, ToolRiskLevel.isHigh]
  exact PolicyDecision.guarded_allowed high OperationalControlService.killSwitchDecision_allowed

theorem externalWrites_allowed :
    (service.externalWritesKillSwitchDecision (runtime.policyRequest run step)).allowed = true ↔
      (step.toolInput.get? "external_write" = some (.bool true) →
        ¬service.Killed run.tenantId .externalWrites) := by
  have shows : isTrue ((runtime.policyRequest run step).context.get? "external_write") = true ↔
      step.toolInput.get? "external_write" = some (.bool true) := by
    have stored : (runtime.policyRequest run step).context.get? "external_write" =
        some (.bool (isTrue (step.toolInput.get? "external_write"))) := rfl
    rw [stored, isTrue_bool, isTrue_iff]
  exact PolicyDecision.guarded_allowed shows OperationalControlService.killSwitchDecision_allowed

variable (runtime run step service) in
theorem evaluateRuntimeStep_allowed :
    (service.evaluateRuntimeStep (runtime.policyRequest run step)).allowed = true ↔
      ∀ control : Control, control.InForce service run.tenantId → ¬control.Shows runtime run step := by
  simp only [OperationalControlService.evaluateRuntimeStep,
    OperationalControlService.evaluateRuntimeExecution, PolicyDecision.andThen_allowed,
    Bool.and_eq_true, OperationalControlService.contextDecision_allowed, agentId_shown,
    skillId_shown, connectorId_shown, triggerId_shown, sandboxCreation_allowed,
    highRiskTools_allowed, externalWrites_allowed]
  constructor
  · rintro ⟨⟨tenant, runs, agent⟩, skill, connector, trigger, sandbox, risk, writes⟩ control force
    cases control with
    | quarantine targetType targetId =>
      cases targetType with
      | tenant =>
        rintro rfl
        exact OperationalControlService.quarantineDecision_allowed.mp tenant force
      | run =>
        rintro rfl
        exact OperationalControlService.quarantineDecision_allowed.mp runs force
      | agent => exact fun shows => agent targetId shows force
      | skill => exact fun shows => skill targetId shows force
      | connector => exact fun shows => connector targetId shows force
      | trigger => exact fun shows => trigger targetId shows force
    | killSwitch scope =>
      cases scope with
      | highRiskTools => exact fun shows => risk shows force
      | externalWrites => exact fun shows => writes shows force
      | modelProviders => exact id
      | sandboxCreation => exact fun shows => sandbox shows force
  · intro free
    refine ⟨⟨?_, ?_, fun id shows force => free (.quarantine .agent id) force shows⟩,
      fun id shows force => free (.quarantine .skill id) force shows,
      fun id shows force => free (.quarantine .connector id) force shows,
      fun id shows force => free (.quarantine .trigger id) force shows,
      fun shows force => free (.killSwitch .sandboxCreation) force shows,
      fun shows force => free (.killSwitch .highRiskTools) force shows,
      fun shows force => free (.killSwitch .externalWrites) force shows⟩
    · exact OperationalControlService.quarantineDecision_allowed.mpr fun force =>
        free (.quarantine .tenant run.tenantId) force rfl
    · exact OperationalControlService.quarantineDecision_allowed.mpr fun force =>
        free (.quarantine .run run.id) force rfl

end Request

section Policy

variable {runtime : Runtime} {run : Run} {step : PlanStep} {policy : OperationalPolicyService}

def BaseRefuses (policy : OperationalPolicyService) (request : PolicyRequest) : Prop :=
  ∃ base, policy.basePolicyService = some base ∧ (base request).allowed = false

theorem decideRuntimeStep_refused (configured : runtime.policyService = some policy) :
    (runtime.decideRuntimeStep run step).allowed = false ↔
      (∃ control : Control, control.InForce policy.controlService run.tenantId ∧
        control.Shows runtime run step) ∨
      BaseRefuses policy (runtime.policyRequest run step) := by
  have shown := evaluateRuntimeStep_allowed runtime run step policy.controlService
  simp only [Runtime.decideRuntimeStep, configured, OperationalPolicyService.decideRuntimeStep]
  cases decision : (policy.controlService.evaluateRuntimeStep
      (runtime.policyRequest run step)).allowed with
  | true =>
    have free := shown.mp decision
    have none_shown : ¬∃ control : Control, control.InForce policy.controlService run.tenantId ∧
        control.Shows runtime run step := fun ⟨control, force, shows⟩ => free control force shows
    cases base : policy.basePolicyService with
    | none => simp [decision, none_shown, BaseRefuses, base]
    | some decide => simp [none_shown, BaseRefuses, base]
  | false =>
    have caught : ∃ control : Control, control.InForce policy.controlService run.tenantId ∧
        control.Shows runtime run step := by
      by_contra free
      have allowed := shown.mpr fun control force shows => free ⟨control, force, shows⟩
      exact absurd allowed (by simp [decision])
    simp [decision, caught]

end Policy

end Taroai.Incidents
