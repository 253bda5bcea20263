import Mathlib.Data.List.MinMax
import Taroai.Lib.Table

/-! `model_gateway/policy.py`: the model policy of the installation with scoped policies for
tenants and workspaces. For a request the most specific matching scope is selected and read
beside the global policy; no other scope is read. -/

namespace Taroai.Governance

abbrev SensitivityLimits := Table (Prod.fst (α := String) (β := Nat))

structure ModelGatewayRequest where
  tenantId : String
  workspaceId : String
  providerId : Option String := none
  model : Option String := none
  sensitivityLevel : Nat := 0
deriving DecidableEq, Repr

structure ModelPolicyScope where
  tenantId : Option String
  workspaceId : Option String
  defaultModel : Option String := none
  allowedModels : List String := []
  deniedModels : List String := []
  modelSensitivityLimits : SensitivityLimits := .empty
  tenant_of_workspace : workspaceId.isSome → tenantId.isSome

namespace ModelPolicyScope

def matches? (scope : ModelPolicyScope) (request : ModelGatewayRequest) : Bool :=
  scope.tenantId.all (· = request.tenantId) && scope.workspaceId.all (· = request.workspaceId)

def specificity (scope : ModelPolicyScope) : Nat :=
  (if scope.tenantId.isSome then 1 else 0) + (if scope.workspaceId.isSome then 2 else 0)

def identity (scope : ModelPolicyScope) : Option String × Option String :=
  (scope.tenantId, scope.workspaceId)

theorem specificity_le (scope : ModelPolicyScope) : scope.specificity ≤ 3 := by
  unfold specificity
  split <;> split <;> simp

theorem specificity_workspace {scope : ModelPolicyScope} (own : scope.workspaceId.isSome) :
    scope.specificity = 3 := by
  simp [specificity, own, scope.tenant_of_workspace own]

theorem specificity_tenant {scope : ModelPolicyScope} (shared : scope.workspaceId = none) :
    scope.specificity ≤ 1 := by
  unfold specificity
  split <;> simp [shared]

end ModelPolicyScope

/-- `ModelPolicyDeniedError` with its metadata; the last part is that of a sensitivity check. -/
structure ModelPolicyDenied where
  reason : String
  requestedModel : String
  allowedModels : List String
  deniedModels : List String
  policyScope : Option String × Option String
  sensitivity : Option (Nat × Option Nat × SensitivityLimits) := none
deriving DecidableEq

structure ModelPolicy where
  defaultModel : Option String := none
  allowedModels : List String := []
  deniedModels : List String := []
  modelSensitivityLimits : SensitivityLimits := .empty
  scopedPolicies : List ModelPolicyScope := []

namespace ModelPolicy

variable (policy : ModelPolicy) (request : ModelGatewayRequest)

/-- `max` over the matching scopes: the first of the most specific ones. -/
def selectedScope : Option ModelPolicyScope :=
  (policy.scopedPolicies.filter fun scope => scope.matches? request).argmax
    ModelPolicyScope.specificity

def resolveModel : Option String :=
  request.model <|> ((policy.selectedScope request).bind ModelPolicyScope.defaultModel) <|>
    policy.defaultModel

def effectiveAllowedModels : Option ModelPolicyScope → List String
  | some scope => if scope.allowedModels = [] then policy.allowedModels else scope.allowedModels
  | none => policy.allowedModels

def effectiveDeniedModels : Option ModelPolicyScope → List String
  | some scope => (policy.deniedModels ++ scope.deniedModels).eraseDups
  | none => policy.deniedModels.eraseDups

def effectiveModelSensitivityLimits : Option ModelPolicyScope → SensitivityLimits
  | some scope => scope.modelSensitivityLimits.entries.foldl Table.put policy.modelSensitivityLimits
  | none => policy.modelSensitivityLimits

def deniedError (policyScope : Option ModelPolicyScope) (requestedModel reason : String)
    (sensitivity : Option (Nat × Option Nat × SensitivityLimits)) : ModelPolicyDenied where
  reason := reason
  requestedModel := requestedModel
  allowedModels := policy.effectiveAllowedModels policyScope
  deniedModels := policy.effectiveDeniedModels policyScope
  policyScope := (policyScope.map ModelPolicyScope.identity).getD (none, none)
  sensitivity := sensitivity

def assertSensitivityAllowed (policyScope : Option ModelPolicyScope) (requestedModel : String)
    (sensitivityLevel : Nat) : Except ModelPolicyDenied Unit :=
  if sensitivityLevel = 0 then .ok ()
  else
    let limits := policy.effectiveModelSensitivityLimits policyScope
    match limits.get? requestedModel with
    | none =>
      .error (policy.deniedError policyScope requestedModel
        "model sensitivity limit is not configured" (some (sensitivityLevel, none, limits)))
    | some (_, limit) =>
      if limit < sensitivityLevel then
        .error (policy.deniedError policyScope requestedModel
          "request sensitivity exceeds model limit" (some (sensitivityLevel, some limit, limits)))
      else .ok ()

def decideModel (policyScope : Option ModelPolicyScope) (requestedModel : String)
    (sensitivityLevel : Nat) : Except ModelPolicyDenied (Option String) :=
  if requestedModel ∈ policy.effectiveDeniedModels policyScope then
    .error (policy.deniedError policyScope requestedModel "model is explicitly denied by policy"
      none)
  else if policy.effectiveAllowedModels policyScope ≠ [] ∧
      requestedModel ∉ policy.effectiveAllowedModels policyScope then
    .error (policy.deniedError policyScope requestedModel "model is not in the allowed model list"
      none)
  else do
    policy.assertSensitivityAllowed policyScope requestedModel sensitivityLevel
    return some requestedModel

def assertRequestAllowed : Except ModelPolicyDenied (Option String) :=
  match policy.resolveModel request with
  | none => .ok none
  | some requestedModel =>
    policy.decideModel (policy.selectedScope request) requestedModel request.sensitivityLevel

section Selection

variable {policy request}

theorem argmax_of_find {scopes : List ModelPolicyScope} {scope : ModelPolicyScope}
    (first : scopes.find? (fun s => s.workspaceId.isSome) = some scope) :
    scopes.argmax ModelPolicyScope.specificity = some scope := by
  have own : scope.workspaceId.isSome := by simpa using List.find?_some first
  induction scopes with
  | nil => cases first
  | cons head rest ih =>
    rw [List.argmax_cons]
    by_cases here : head.workspaceId.isSome
    · simp only [List.find?_cons, here] at first
      obtain rfl := Option.some.inj first
      cases rest.argmax ModelPolicyScope.specificity with
      | none => rfl
      | some other =>
        have := other.specificity_le
        have := ModelPolicyScope.specificity_workspace here
        exact if_neg (by omega)
    · simp only [List.find?_cons, here] at first
      have low := ModelPolicyScope.specificity_tenant (Option.not_isSome_iff_eq_none.mp here)
      have high := ModelPolicyScope.specificity_workspace own
      rw [ih first]
      exact if_pos (by omega)

def withoutWorkspaces (policy : ModelPolicy) : ModelPolicy :=
  { policy with scopedPolicies := policy.scopedPolicies.filter fun s => s.workspaceId.isNone }

def workspacePolicy? (policy : ModelPolicy) (request : ModelGatewayRequest) :
    Option ModelPolicyScope :=
  policy.scopedPolicies.find? fun scope => scope.matches? request && scope.workspaceId.isSome

def add (policy : ModelPolicy) (scope : ModelPolicyScope) : ModelPolicy :=
  { policy with scopedPolicies := policy.scopedPolicies ++ [scope] }

theorem selectedScope_workspace {scope : ModelPolicyScope}
    (own : policy.workspacePolicy? request = some scope) :
    policy.selectedScope request = some scope := by
  apply argmax_of_find
  rw [List.find?_filter]
  simpa [workspacePolicy?] using own

theorem selectedScope_withoutWorkspaces (shared : policy.workspacePolicy? request = none) :
    policy.withoutWorkspaces.selectedScope request = policy.selectedScope request := by
  unfold selectedScope withoutWorkspaces
  rw [List.filter_filter]
  congr 1
  apply List.filter_congr
  intro scope member
  have := List.find?_eq_none.mp shared scope member
  cases matching : scope.matches? request with
  | false => rfl
  | true => simpa [matching] using this

theorem selectedScope_add {scope : ModelPolicyScope} (elsewhere : scope.matches? request = false) :
    (policy.add scope).selectedScope request = policy.selectedScope request := by
  unfold selectedScope add
  rw [List.filter_append]
  simp [elsewhere]

theorem assertRequestAllowed_congr {scopes : List ModelPolicyScope}
    (same : ({ policy with scopedPolicies := scopes } : ModelPolicy).selectedScope request =
      policy.selectedScope request) :
    ({ policy with scopedPolicies := scopes } : ModelPolicy).assertRequestAllowed request =
      policy.assertRequestAllowed request := by
  unfold assertRequestAllowed resolveModel
  rw [same]
  rfl

end Selection

section Decision

variable {policy request} {policyScope : Option ModelPolicyScope} {model : String} {level : Nat}

theorem mem_effectiveDeniedModels :
    model ∈ policy.effectiveDeniedModels policyScope ↔
      model ∈ policy.deniedModels ∨ ∃ scope, policyScope = some scope ∧ model ∈ scope.deniedModels := by
  cases policyScope <;> simp [effectiveDeniedModels]

theorem assertSensitivityAllowed_ok :
    policy.assertSensitivityAllowed policyScope model level = .ok () ↔
      level = 0 ∨ ∃ entry, (policy.effectiveModelSensitivityLimits policyScope).get? model =
        some entry ∧ level ≤ entry.2 := by
  unfold assertSensitivityAllowed
  split
  · next harmless => simp [harmless]
  · next sensitive =>
    cases configured : (policy.effectiveModelSensitivityLimits policyScope).get? model with
    | none => simp [sensitive, configured]
    | some entry =>
      by_cases beyond : entry.2 < level
      · simp [sensitive, configured, beyond]
      · simp [sensitive, configured, beyond, Nat.not_lt.mp beyond]

theorem decideModel_denied (denied : model ∈ policy.effectiveDeniedModels policyScope) :
    policy.decideModel policyScope model level =
      .error (policy.deniedError policyScope model "model is explicitly denied by policy" none) :=
  if_pos denied

/-- The model that a decision lets through is the requested one, and passes all three checks. -/
theorem decideModel_ok {allowed : Option String} :
    policy.decideModel policyScope model level = .ok allowed ↔
      allowed = some model ∧ model ∉ policy.effectiveDeniedModels policyScope ∧
      (policy.effectiveAllowedModels policyScope = [] ∨
        model ∈ policy.effectiveAllowedModels policyScope) ∧
      policy.assertSensitivityAllowed policyScope model level = .ok () := by
  unfold decideModel
  split
  · next denied => simp [denied]
  · next undenied =>
    split
    · next unlisted => simp [undenied, unlisted]
    · next listed =>
      have open_list : policy.effectiveAllowedModels policyScope = [] ∨
          model ∈ policy.effectiveAllowedModels policyScope := by tauto
      cases policy.assertSensitivityAllowed policyScope model level with
      | error e => simp [bind, Except.bind]
      | ok done =>
        simp only [bind, Except.bind, pure, Except.pure, Except.ok.injEq, undenied, open_list,
          not_false_eq_true, and_true]
        exact eq_comm

end Decision

section Refusals

variable {policy request} {scope : ModelPolicyScope} {model : String}

theorem assertRequestAllowed_of_asks (asks : policy.resolveModel request = some model) :
    policy.assertRequestAllowed request =
      policy.decideModel (policy.selectedScope request) model request.sensitivityLevel := by
  rw [assertRequestAllowed, asks]

theorem denied_globally (asks : policy.resolveModel request = some model)
    (denied : model ∈ policy.deniedModels) :
    policy.assertRequestAllowed request = .error (policy.deniedError (policy.selectedScope request)
      model "model is explicitly denied by policy" none) := by
  rw [assertRequestAllowed_of_asks asks]
  exact decideModel_denied (mem_effectiveDeniedModels.mpr (Or.inl denied))

theorem allowed_in_workspace (asks : policy.resolveModel request = some model)
    (own : policy.workspacePolicy? request = some scope) (allowed : String) :
    policy.assertRequestAllowed request = .ok (some allowed) ↔
      allowed = model ∧ model ∉ policy.deniedModels ∧ model ∉ scope.deniedModels ∧
      (policy.effectiveAllowedModels (some scope) = [] ∨
        model ∈ policy.effectiveAllowedModels (some scope)) ∧
      policy.assertSensitivityAllowed (some scope) model request.sensitivityLevel = .ok () := by
  rw [assertRequestAllowed_of_asks asks, selectedScope_workspace own, decideModel_ok,
    mem_effectiveDeniedModels, Option.some.injEq]
  simp only [Option.some.injEq, exists_eq_left', not_or, and_assoc]

theorem selectedScope_joined (unscoped : policy.selectedScope request = none)
    (joins : scope.matches? request = true) :
    (policy.add scope).selectedScope request = some scope := by
  have none_matching := List.argmax_eq_none.mp unscoped
  unfold selectedScope add
  rw [List.filter_append, none_matching]
  simp [joins]

theorem allowed_before (unscoped : policy.selectedScope request = none)
    (joins : scope.matches? request = true) (names : request.model = some model)
    (inside : ∀ m ∈ scope.allowedModels, policy.allowedModels = [] ∨ m ∈ policy.allowedModels)
    (unlimited : scope.modelSensitivityLimits = .empty)
    (allowed : (policy.add scope).assertRequestAllowed request = .ok (some model)) :
    policy.assertRequestAllowed request = .ok (some model) := by
  have asks (other : ModelPolicy) : other.resolveModel request = some model := by
    simp [resolveModel, names]
  rw [assertRequestAllowed_of_asks (asks _), selectedScope_joined unscoped joins,
    decideModel_ok] at allowed
  rw [assertRequestAllowed_of_asks (asks _), unscoped, decideModel_ok]
  obtain ⟨-, undenied, listed, sensitive⟩ := allowed
  refine ⟨rfl, ?_, ?_, ?_⟩
  · rw [mem_effectiveDeniedModels] at undenied ⊢
    simp only [add] at undenied
    simpa using fun denied => undenied (Or.inl denied)
  · simp only [effectiveAllowedModels, add] at listed ⊢
    split at listed
    · exact listed
    · next some_listed =>
      obtain none_listed | member := listed
      · exact absurd none_listed some_listed
      · exact inside model member
  · have same_limits : (policy.add scope).effectiveModelSensitivityLimits (some scope) =
        policy.effectiveModelSensitivityLimits none := by
      simp [effectiveModelSensitivityLimits, unlimited, add, Table.empty]
    rwa [assertSensitivityAllowed_ok, same_limits, ← assertSensitivityAllowed_ok] at sensitive

/-- Which refusals stand: those of the global list of denied models everywhere, those of the global
and the tenant policy in every workspace without a policy of its own. Where a workspace has one, it
takes the place of the tenant's, and nothing changes outside the workspace. -/
theorem refusals_in_force (policy : ModelPolicy) (request : ModelGatewayRequest) :
    (∀ model ∈ policy.deniedModels, policy.resolveModel request = some model →
      policy.assertRequestAllowed request = .error (policy.deniedError
        (policy.selectedScope request) model "model is explicitly denied by policy" none)) ∧
    (policy.workspacePolicy? request = none →
      policy.assertRequestAllowed request =
        policy.withoutWorkspaces.assertRequestAllowed request) ∧
    (∀ scope model allowed, policy.workspacePolicy? request = some scope →
      policy.resolveModel request = some model →
      (policy.assertRequestAllowed request = .ok (some allowed) ↔
        allowed = model ∧ model ∉ policy.deniedModels ∧ model ∉ scope.deniedModels ∧
        (policy.effectiveAllowedModels (some scope) = [] ∨
          model ∈ policy.effectiveAllowedModels (some scope)) ∧
        policy.assertSensitivityAllowed (some scope) model request.sensitivityLevel = .ok ())) ∧
    (∀ scope : ModelPolicyScope, scope.matches? request = false →
      (policy.add scope).assertRequestAllowed request = policy.assertRequestAllowed request) ∧
    (∀ scope model, policy.selectedScope request = none → scope.matches? request = true →
      request.model = some model →
      (∀ m ∈ scope.allowedModels, policy.allowedModels = [] ∨ m ∈ policy.allowedModels) →
      scope.modelSensitivityLimits = .empty →
      (policy.add scope).assertRequestAllowed request = .ok (some model) →
      policy.assertRequestAllowed request = .ok (some model)) := by
  refine ⟨fun model denied asks => denied_globally asks denied, fun shared => ?_,
    fun scope model allowed own asks => allowed_in_workspace asks own allowed,
    fun scope elsewhere => assertRequestAllowed_congr (selectedScope_add elsewhere),
    fun scope model unscoped joins names inside unlimited allowed =>
      allowed_before unscoped joins names inside unlimited allowed⟩
  exact (assertRequestAllowed_congr (selectedScope_withoutWorkspaces shared)).symm

/-- A tenant that denies a model, and a workspace of it with a policy that lists the model. -/
def salesPolicy : ModelPolicy where
  allowedModels := ["approved"]
  scopedPolicies :=
    [⟨some "acme", none, none, [], ["preview"], .empty, fun _ => rfl⟩,
      ⟨some "acme", some "sales", none, ["preview"], [], .empty, fun _ => rfl⟩]

theorem workspace_policy_lifts_refusal :
    ¬ ∀ (policy : ModelPolicy) (request : ModelGatewayRequest),
      (∃ e, policy.withoutWorkspaces.assertRequestAllowed request = .error e) →
      ∃ e, policy.assertRequestAllowed request = .error e := by
  intro stands
  obtain ⟨e, refused⟩ := stands salesPolicy ⟨"acme", "sales", none, some "preview", 0⟩ ⟨_, rfl⟩
  cases refused

end Refusals

end ModelPolicy

end Taroai.Governance
