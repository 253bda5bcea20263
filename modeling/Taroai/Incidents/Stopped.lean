import Taroai.Incidents.StepPolicy

/-! Which steps of a run come past the node `policy`, the only node from which the graph goes on
to invoke a tool. A control in force that names the tool of a step stops it exactly where some
control in force shows in the context of the request. -/

namespace Taroai.Incidents

open Json (Items)
open Agent (AgentAction AgentRuntimeState Answers decisionStep)
open Program (result_bind_eq_some)

theorem next_eq_act {node : Agent.Node} {route : Agent.AgentGraphRoute}
    (leads : Agent.next node route = some (.to .act)) : node = .policy ∧ route = .to .act := by
  have taken : route = .to .act ∨ Agent.edges node = .always (.to .act) := by
    unfold Agent.next at leads
    split at leads
    · split at leads
      · exact .inl (Option.some.inj leads)
      · cases leads
    · next target always => exact .inr (Option.some.inj leads ▸ always)
  obtain rfl | always := taken
  · revert leads
    cases node <;> decide
  · revert always
    cases node <;> simp [Agent.edges]

theorem policy_of_act {runtime : Agent.AgentRuntime} {run : Agent.Run} {p : Agent.Position}
    {answers : Answers} {s : AgentRuntimeState}
    (arrives : p.step runtime run answers = some (.at .act s)) :
    ∃ state, p = .at .policy state ∧
      (Agent.Nodes.policy state).result answers 0 = some s ∧ s.graphRoute = .to .act := by
  cases p with
  | «at» node state =>
    simp only [Agent.Position.step] at arrives
    split at arrives
    · next s' returned =>
      simp only [Agent.leave] at arrives
      split at arrives
      · next node' leads =>
        simp only [Option.some.injEq, Agent.Position.at.injEq] at arrives
        obtain ⟨rfl, rfl⟩ := arrives
        obtain ⟨rfl, route⟩ := next_eq_act leads
        exact ⟨state, rfl, returned, route⟩
      · cases arrives
      · cases arrives
    · cases arrives
  | ended state | undeclared node route | raised node => cases arrives

section Visit

variable {answers : Answers} {state s : AgentRuntimeState} {action : AgentAction}

def Current (answers : Answers) (state : AgentRuntimeState) (action : AgentAction) : Prop :=
  ∃ actionId, state.currentActionId = some actionId ∧
    ∀ n, answers n (.getAction actionId) = some action

theorem currentAction_result {n : Nat} {found : Option AgentAction}
    (current : Current answers state action)
    (returned : (Agent.Nodes.currentAction state).result answers n = some found) :
    found = some action := by
  obtain ⟨actionId, named, answered⟩ := current
  simp only [Agent.Nodes.currentAction, named] at returned
  obtain ⟨a, m, first, rest⟩ := result_bind_eq_some returned
  have same : a = some action := by
    rw [← answered n]
    exact (Option.some.inj first).symm
  subst same
  exact (Option.some.inj rest).symm

theorem stopIfCancelled_result {n : Nat} {stopped : Bool}
    (returned : (Agent.Services.stopIfCancelled state).result answers n = some (stopped, s)) :
    stopped = true ∨ s = state := by
  obtain ⟨cancelled, m, -, rest⟩ := result_bind_eq_some returned
  cases cancelled with
  | true =>
    rw [if_pos rfl] at rest
    obtain ⟨_, _, _, rest⟩ := result_bind_eq_some rest
    obtain ⟨_, _, _, rest⟩ := result_bind_eq_some rest
    obtain ⟨_, _, _, rest⟩ := result_bind_eq_some rest
    exact .inl (congrArg Prod.fst (Option.some.inj rest)).symm
  | false =>
    rw [if_neg Bool.false_ne_true] at rest
    exact .inr (congrArg Prod.snd (Option.some.inj rest)).symm

theorem policy_lets_pass {n : Nat} (current : Current answers state action)
    (returned : (Agent.Nodes.policy state).result answers n = some s)
    (acts : s.graphRoute = .to .act) :
    ∃ n, (answers n (.ask (.runtimeStep (decisionStep action)))).allowed = true := by
  obtain ⟨⟨stopped, t⟩, m, first, rest⟩ := result_bind_eq_some returned
  cases stopped with
  | true => exact absurd acts (Option.some.inj rest ▸ nofun)
  | false =>
    obtain stopped | rfl := stopIfCancelled_result first
    · cases stopped
    obtain ⟨found, m, second, rest⟩ := result_bind_eq_some rest
    obtain rfl := currentAction_result current second
    obtain ⟨decision, k, third, rest⟩ := result_bind_eq_some rest
    have answered : answers m (.ask (.runtimeStep (decisionStep action))) = decision :=
      Option.some.inj third
    refine ⟨m, ?_⟩
    rw [answered]
    by_contra refused
    rw [if_neg refused] at rest
    obtain ⟨_, _, _, rest⟩ := result_bind_eq_some rest
    exact absurd acts (Option.some.inj rest ▸ nofun)

end Visit

/-- An execution may come from `policy` to invoking the tool of the step, with the runtime's own
decision on it. -/
def ReachesTool (runtime : Runtime) (run : Run) (step : PlanStep) : Prop :=
  ∃ limits graphRun answers state action s,
    Current answers state action ∧ decisionStep action = step.toPlanStep ∧
    (∀ n, (answers n (.ask (.runtimeStep step.toPlanStep))).allowed =
      (runtime.decideRuntimeStep run step).allowed) ∧
    Agent.Position.step limits graphRun (.at .policy state) answers = some (.at .act s)

section Reaching

variable (step : PlanStep)

def proposedAction : AgentAction where
  id := step.id
  cycleId := "cycle"
  actionKey := "key"
  decision :=
    { kind := .action
      toolName := some step.toolName
      skillId := step.skillId
      approvalRequired := step.approvalRequired }

def approvedState : AgentRuntimeState where
  status := .running
  maxIterations := 1
  maxRepairs := 1
  approvedStepIds := [step.id]
  currentActionId := some step.id

def passedState : AgentRuntimeState :=
  Agent.Nodes.route { approvedState step with currentStepId := some step.id } (.to .act)

def passing : Answers := fun _ c =>
  match c with
  | .getAction _ => some (proposedAction step)
  | c => Agent.smooth c

theorem policy_passing :
    (Agent.Nodes.policy (approvedState step)).result (passing step) 0 =
      some (passedState step) := by
  have approved : (decisionStep (proposedAction step)).id ∈
      ({ approvedState step with currentStepId := some step.id } : AgentRuntimeState).approvedStepIds :=
    List.mem_singleton_self _
  change Program.result (passing step) 3 (Agent.Services.requiresApproval _ _ _ >>= _) = _
  unfold Agent.Services.requiresApproval
  rw [if_pos approved]
  rfl

end Reaching

theorem reachesTool_iff {runtime : Runtime} {run : Run} {step : PlanStep} :
    ReachesTool runtime run step ↔ (runtime.decideRuntimeStep run step).allowed = true := by
  constructor
  · rintro ⟨limits, graphRun, answers, state, action, s, current, same, answered, arrives⟩
    obtain ⟨state', same', returned, route⟩ := policy_of_act arrives
    cases same'
    obtain ⟨n, passed⟩ := policy_lets_pass current returned route
    rw [same, answered n] at passed
    exact passed
  · intro allowed
    refine ⟨Agent.limits, ⟨.chat, false⟩, passing step, approvedState step, proposedAction step,
      passedState step, ⟨step.id, rfl, fun _ => rfl⟩, rfl, fun _ => allowed.symm, ?_⟩
    simp only [Agent.Position.step, Agent.body, policy_passing]
    rfl

def Named (runtime : Runtime) (policy : OperationalPolicyService) (run : Run) (step : PlanStep) :
    Prop :=
  ∃ control : Control, control.InForce policy.controlService run.tenantId ∧
    control.Names runtime run step

/-- A control in force, this one or another, shows in the context of the request. -/
def Shown (runtime : Runtime) (policy : OperationalPolicyService) (run : Run) (step : PlanStep) :
    Prop :=
  ∃ control : Control, control.InForce policy.controlService run.tenantId ∧
    control.Shows runtime run step

/-- A step that a control names does not come to its tool exactly where a control shows or the
policy service under the controls refuses it. -/
theorem named_step_is_stopped {runtime : Runtime} {policy : OperationalPolicyService}
    (configured : runtime.policyService = some policy) (run : Run) (step : PlanStep) :
    (Named runtime policy run step → ¬ReachesTool runtime run step) ↔
      (Named runtime policy run step → Shown runtime policy run step ∨
        BaseRefuses policy (runtime.policyRequest run step)) := by
  refine imp_congr_right fun _ => ?_
  rw [reachesTool_iff, Bool.not_eq_true]
  exact decideRuntimeStep_refused configured

section Overlooked

/-- A connector whose identifier the input does not carry is used, whatever its quarantine and
however the name of the tool spells it. -/
theorem connector_overlooked {runtime : Runtime} {policy : OperationalPolicyService} {run : Run}
    {step : PlanStep} (configured : runtime.policyService = some policy)
    (alone : policy.basePolicyService = none)
    (connectors : ∀ control : Control, control.InForce policy.controlService run.tenantId →
      ∃ id, control = .quarantine .connector id)
    (omitted : step.toolInput.get? "connector_id" = none) : ReachesTool runtime run step := by
  rw [reachesTool_iff, ← Bool.not_eq_false]
  intro refused
  obtain ⟨control, force, shows⟩ | ⟨base, present, -⟩ :=
    (decideRuntimeStep_refused configured).mp refused
  · obtain ⟨id, rfl⟩ := connectors control force
    rw [Control.Shows, omitted] at shows
    cases shows.1
  · rw [alone] at present
    cases present

def crm : ConnectorDefinition where
  id := "c1"
  tenantId := "tenant_acme"
  workspaceId := "workspace_sales"
  capabilities := [{ name := "query" }]

def quarantinedCrm : OperationalPolicyService where
  controlService := ({} : OperationalControlService).quarantine "q1" "tenant_acme" .connector "c1"
    "incident_review" "user_sre"

def quarantinedRuntime : Runtime where
  connectors := Table.empty.put crm
  policyService := some quarantinedCrm

def salesRun : Run where
  id := "r1"
  tenantId := "tenant_acme"
  workspaceId := "workspace_sales"
  userId := "u1"

def queryStep (toolInput : Items) : PlanStep where
  id := "s1"
  toolName := connectorToolName "c1" "query"
  skillId := none
  approvalRequired := false
  toolInput := toolInput

theorem queryStep_named (toolInput : Items) :
    Named quarantinedRuntime quarantinedCrm salesRun (queryStep toolInput) := by
  refine ⟨.quarantine .connector "c1", ⟨_, List.mem_singleton_self _, rfl, rfl, rfl, rfl⟩, .inl ?_⟩
  refine ⟨(crm, { name := "query" }), ?_, rfl⟩
  have parts : parseConnectorTool (queryStep toolInput).toolName = some ("c1", "query") :=
    parseConnectorTool_name (by decide) (by decide) (by decide)
  rw [Runtime.connectorTool, parts]
  rfl

theorem named_step_is_stopped_query :
    ¬ReachesTool quarantinedRuntime salesRun (queryStep [("connector_id", .text "c1")]) := by
  refine (named_step_is_stopped (show quarantinedRuntime.policyService = some quarantinedCrm from rfl) salesRun _).mpr (fun _ => .inl ?_)
    (queryStep_named _)
  exact ⟨.quarantine .connector "c1", ⟨_, List.mem_singleton_self _, rfl, rfl, rfl, rfl⟩,
    rfl, ⟨'c', by simp, rfl⟩⟩

/-- The step of a quarantined connector's tool whose input does not repeat the connector. -/
theorem quarantined_connector_is_reached :
    ¬∀ step, Named quarantinedRuntime quarantinedCrm salesRun step →
      ¬ReachesTool quarantinedRuntime salesRun step := by
  intro stopped
  refine stopped (queryStep []) (queryStep_named []) (connector_overlooked rfl rfl ?_ rfl)
  rintro (⟨targetType, id⟩ | scope) force
  · obtain ⟨q, member, -, rfl, -, -⟩ := force
    cases List.mem_singleton.mp member
    exact ⟨id, rfl⟩
  · obtain ⟨k, member, -⟩ := force
    cases member

end Overlooked

end Taroai.Incidents
