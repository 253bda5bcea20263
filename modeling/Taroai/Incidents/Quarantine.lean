import Taroai.Lib.Json
import Taroai.Lib.Table
import Taroai.Lib.Whitespace

/-! The operational controls of `incidents/quarantine.py`: quarantines of runs, agents, skills,
connectors, triggers and tenants, kill switches of a tenant, and the decision on one step of a
run. The policy service under the controls is a parameter. -/

namespace Taroai.Incidents

open Json (Items)

inductive QuarantineTargetType where
  | run
  | agent
  | skill
  | connector
  | trigger
  | tenant
deriving DecidableEq, Repr

def QuarantineTargetType.value : QuarantineTargetType → String
  | run => "run"
  | agent => "agent"
  | skill => "skill"
  | connector => "connector"
  | trigger => "trigger"
  | tenant => "tenant"

inductive QuarantineStatus where
  | active
  | cleared
deriving DecidableEq, Repr

inductive KillSwitchScope where
  | highRiskTools
  | externalWrites
  | modelProviders
  | sandboxCreation
deriving DecidableEq, Repr

def KillSwitchScope.value : KillSwitchScope → String
  | highRiskTools => "high_risk_tools"
  | externalWrites => "external_writes"
  | modelProviders => "model_providers"
  | sandboxCreation => "sandbox_creation"

structure QuarantineRecord where
  id : String
  tenantId : String
  targetType : QuarantineTargetType
  targetId : String
  reasonCode : String
  createdByUserId : String
  status : QuarantineStatus := .active
deriving DecidableEq, Repr

structure KillSwitchRecord where
  id : String
  tenantId : String
  scope : KillSwitchScope
  reasonCode : String
  enabledByUserId : String
  enabled : Bool := true
deriving DecidableEq, Repr

def killSwitchKey (tenantId : String) (scope : KillSwitchScope) : String :=
  tenantId ++ ":" ++ scope.value

theorem killSwitchKey_inj {t u : String} {s r : KillSwitchScope} :
    killSwitchKey t s = killSwitchKey u r ↔ t = u ∧ s = r := by
  constructor
  · intro same
    have chars := congrArg (fun key => key.toList.reverse) same
    simp only [killSwitchKey, String.toList_append, List.reverse_append] at chars
    cases s <;> cases r <;> simp [KillSwitchScope.value, String.toList_inj] at chars <;>
      exact ⟨chars, rfl⟩
  · rintro ⟨rfl, rfl⟩
    rfl

structure OperationalControlService where
  quarantines : Table QuarantineRecord.id := .empty
  killSwitches : Table fun k : KillSwitchRecord => killSwitchKey k.tenantId k.scope := .empty

structure PolicyRequest where
  tenantId : String
  userId : String
  action : String
  resource : String
  workspaceId : Option String := none
  runId : Option String := none
  sensitivityLevel : Nat := 0
  riskLevel : Option String := none
  context : Items := []

inductive PolicyEffect where
  | allow
  | deny
  | approvalRequired
deriving DecidableEq, Repr

structure PolicyDecision where
  effect : PolicyEffect
  allowed : Bool := false
  approvalRequired : Bool := false
  reason : Option String := none
  missingPermissions : List String := []
  metadata : Items := []

namespace PolicyDecision

def allow : PolicyDecision where
  effect := .allow
  allowed := true

def deny (reason : String) (metadata : Items) : PolicyDecision where
  effect := .deny
  reason := some reason
  metadata := metadata

/-- `if not decision.allowed: return decision`, and then the rest. -/
def andThen (decision rest : PolicyDecision) : PolicyDecision :=
  if decision.allowed then rest else decision

@[simp] theorem allow_allowed : allow.allowed = true := rfl

@[simp] theorem deny_allowed (reason : String) (metadata : Items) :
    (deny reason metadata).allowed = false := rfl

@[simp] theorem andThen_allowed (decision rest : PolicyDecision) :
    (decision.andThen rest).allowed = (decision.allowed && rest.allowed) := by
  cases h : decision.allowed <;> simp [andThen, h]

theorem guarded_allowed {shown named forbidden : Prop} [Decidable shown] {decision : PolicyDecision}
    (shows : shown ↔ named) (allowed : decision.allowed = true ↔ ¬forbidden) :
    (if shown then decision else allow).allowed = true ↔ (named → ¬forbidden) := by
  split
  · next holds => exact ⟨fun free _ => allowed.mp free, fun free => allowed.mpr (free (shows.mp holds))⟩
  · next fails => exact ⟨fun _ named => absurd (shows.mpr named) fails, fun _ => rfl⟩

end PolicyDecision

/-- `value.strip()` is not empty. -/
def HasText (value : String) : Prop := ∃ c ∈ value.toList, isSpace c = false

instance : DecidablePred HasText := fun value =>
  inferInstanceAs (Decidable (∃ c ∈ value.toList, isSpace c = false))

/-- `value is True` -/
def isTrue : Option Json → Bool
  | some (.bool true) => true
  | _ => false

theorem isTrue_iff {value : Option Json} : isTrue value = true ↔ value = some (.bool true) := by
  unfold isTrue
  split <;> simp_all

theorem isTrue_bool (b : Bool) : isTrue (some (.bool b)) = b := by
  cases b <;> rfl

/-- `_context_value` -/
def contextValue (request : PolicyRequest) (key : String) : Option String :=
  match request.context.get? key with
  | some (.text value) => if HasText value then some value else none
  | _ => none

theorem contextValue_eq_some {request : PolicyRequest} {key value : String} :
    contextValue request key = some value ↔
      request.context.get? key = some (.text value) ∧ HasText value := by
  unfold contextValue
  cases request.context.get? key with
  | none => simp
  | some found =>
    cases found with
    | text found =>
      by_cases text : HasText found
      · simp only [text, if_true, Option.some.injEq, Json.text.injEq]
        exact ⟨fun same => ⟨same, same ▸ text⟩, fun same => same.1⟩
      · simp only [text, if_false, Option.some.injEq, Json.text.injEq]
        exact ⟨nofun, fun ⟨same, other⟩ => absurd (same ▸ other) text⟩
    | null | bool _ | int _ | float _ | list _ | dict _ => simp

namespace OperationalControlService

variable (service : OperationalControlService)

def quarantine (id tenantId : String) (targetType : QuarantineTargetType)
    (targetId reasonCode createdByUserId : String) : OperationalControlService :=
  { service with
    quarantines := service.quarantines.put
      { id, tenantId, targetType, targetId, reasonCode, createdByUserId } }

def enableKillSwitch (id tenantId : String) (scope : KillSwitchScope)
    (reasonCode enabledByUserId : String) : OperationalControlService :=
  { service with
    killSwitches := service.killSwitches.put { id, tenantId, scope, reasonCode, enabledByUserId } }

def findActiveQuarantine (tenantId : String) (targetType : QuarantineTargetType)
    (targetId : String) : Option QuarantineRecord :=
  service.quarantines.entries.find? fun q =>
    q.tenantId = tenantId ∧ q.targetType = targetType ∧ q.targetId = targetId ∧ q.status = .active

def findEnabledKillSwitch (tenantId : String) (scope : KillSwitchScope) :
    Option KillSwitchRecord :=
  (service.killSwitches.get? (killSwitchKey tenantId scope)).filter KillSwitchRecord.enabled

def quarantineDecision (tenantId : String) (targetType : QuarantineTargetType)
    (targetId label : String) : PolicyDecision :=
  match service.findActiveQuarantine tenantId targetType targetId with
  | none => .allow
  | some q =>
    .deny s!"{label} is quarantined: {q.reasonCode}"
      [("target_type", .text targetType.value), ("target_id", .text targetId)]

def contextDecision (request : PolicyRequest) (targetType : QuarantineTargetType)
    (contextKey label : String) : PolicyDecision :=
  match contextValue request contextKey with
  | none => .allow
  | some targetId => service.quarantineDecision request.tenantId targetType targetId label

def runDecision (request : PolicyRequest) : PolicyDecision :=
  match request.runId with
  | none => .allow
  | some runId => service.quarantineDecision request.tenantId .run runId "run"

def evaluateRuntimeExecution (request : PolicyRequest) : PolicyDecision :=
  (service.quarantineDecision request.tenantId .tenant request.tenantId "tenant").andThen <|
  (service.runDecision request).andThen <|
  service.contextDecision request .agent "agent_id" "agent"

def killSwitchDecision (tenantId : String) (scope : KillSwitchScope) : PolicyDecision :=
  match service.findEnabledKillSwitch tenantId scope with
  | none => .allow
  | some k =>
    .deny s!"{scope.value} kill switch is enabled: {k.reasonCode}"
      [("target_type", .text "kill_switch"), ("target_id", .text scope.value)]

def sandboxCreationKillSwitchDecision (request : PolicyRequest) : PolicyDecision :=
  if contextValue request "tool_name" = some "sandbox.command" then
    service.killSwitchDecision request.tenantId .sandboxCreation
  else .allow

/-- `request.risk_level or self._context_value(request, "risk_level")` -/
def riskLevel (request : PolicyRequest) : Option String :=
  match request.riskLevel with
  | some risk => if risk ≠ "" then some risk else contextValue request "risk_level"
  | none => contextValue request "risk_level"

def highRiskToolsKillSwitchDecision (request : PolicyRequest) : PolicyDecision :=
  if riskLevel request = some "high" ∨ riskLevel request = some "critical" then
    service.killSwitchDecision request.tenantId .highRiskTools
  else .allow

def externalWritesKillSwitchDecision (request : PolicyRequest) : PolicyDecision :=
  if isTrue (request.context.get? "external_write") then
    service.killSwitchDecision request.tenantId .externalWrites
  else .allow

def evaluateRuntimeStep (request : PolicyRequest) : PolicyDecision :=
  (service.evaluateRuntimeExecution request).andThen <|
  (service.contextDecision request .skill "skill_id" "skill").andThen <|
  (service.contextDecision request .connector "connector_id" "connector").andThen <|
  (service.contextDecision request .trigger "trigger_id" "trigger").andThen <|
  (service.sandboxCreationKillSwitchDecision request).andThen <|
  (service.highRiskToolsKillSwitchDecision request).andThen <|
  service.externalWritesKillSwitchDecision request

section Controls

def Quarantined (tenantId : String) (targetType : QuarantineTargetType) (targetId : String) :
    Prop :=
  ∃ q ∈ service.quarantines.entries,
    q.tenantId = tenantId ∧ q.targetType = targetType ∧ q.targetId = targetId ∧ q.status = .active

def Killed (tenantId : String) (scope : KillSwitchScope) : Prop :=
  ∃ k ∈ service.killSwitches.entries, k.tenantId = tenantId ∧ k.scope = scope ∧ k.enabled = true

variable {service}

theorem findActiveQuarantine_eq_none {tenantId targetId : String}
    {targetType : QuarantineTargetType} :
    service.findActiveQuarantine tenantId targetType targetId = none ↔
      ¬service.Quarantined tenantId targetType targetId := by
  simp [findActiveQuarantine, Quarantined, List.find?_eq_none]

theorem findEnabledKillSwitch_eq_none {tenantId : String} {scope : KillSwitchScope} :
    service.findEnabledKillSwitch tenantId scope = none ↔ ¬service.Killed tenantId scope := by
  unfold findEnabledKillSwitch
  rw [Option.filter_eq_none_iff]
  constructor
  · rintro off ⟨k, member, rfl, rfl, on⟩
    exact off k (Table.get?_of_mem member) on
  · intro none k found on
    obtain ⟨member, key⟩ := Table.get?_eq_some.mp found
    obtain ⟨tenant, scope⟩ := killSwitchKey_inj.mp key
    exact none ⟨k, member, tenant, scope, on⟩

theorem quarantineDecision_allowed {tenantId targetId label : String}
    {targetType : QuarantineTargetType} :
    (service.quarantineDecision tenantId targetType targetId label).allowed = true ↔
      ¬service.Quarantined tenantId targetType targetId := by
  rw [← findActiveQuarantine_eq_none, quarantineDecision]
  cases service.findActiveQuarantine tenantId targetType targetId <;> simp

theorem killSwitchDecision_allowed {tenantId : String} {scope : KillSwitchScope} :
    (service.killSwitchDecision tenantId scope).allowed = true ↔
      ¬service.Killed tenantId scope := by
  rw [← findEnabledKillSwitch_eq_none, killSwitchDecision]
  cases service.findEnabledKillSwitch tenantId scope <;> simp

theorem contextDecision_allowed {request : PolicyRequest} {targetType : QuarantineTargetType}
    {contextKey label : String} :
    (service.contextDecision request targetType contextKey label).allowed = true ↔
      ∀ targetId, contextValue request contextKey = some targetId →
        ¬service.Quarantined request.tenantId targetType targetId := by
  unfold contextDecision
  cases contextValue request contextKey with
  | none => simp
  | some targetId => simp [quarantineDecision_allowed]

end Controls

end OperationalControlService

structure OperationalPolicyService where
  controlService : OperationalControlService
  basePolicyService : Option (PolicyRequest → PolicyDecision) := none

def OperationalPolicyService.decideRuntimeStep (policy : OperationalPolicyService)
    (request : PolicyRequest) : PolicyDecision :=
  let decision := policy.controlService.evaluateRuntimeStep request
  match decision.allowed, policy.basePolicyService with
  | true, some base => base request
  | _, _ => decision

end Taroai.Incidents
