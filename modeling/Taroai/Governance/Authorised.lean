import Taroai.Governance.ToolGateway

/-! A tool handler runs only for an authorised call. Each stage of `execute_request` either
raises, and no handler has been called, or lets the request pass with what it checked; the
handler is called once, with the request that the last stage made. -/

namespace Taroai.Governance

open Json Raising

namespace ToolGateway

variable {Lease : Type} {texts : PythonTexts} {gateway : ToolGateway Lease}
  {request call : ToolGatewayRequest Lease}

/-- The stages in front of the handler let the request pass and made the call of it. -/
structure Cleared (texts : PythonTexts) (gateway : ToolGateway Lease) (policy : ToolPolicy)
    (request call : ToolGatewayRequest Lease) : Prop where
  known : gateway.policies request.toolName = some policy
  enabled : policy.enabled = true
  scopes : ∀ scope ∈ policy.requiredScopes, scope ∈ request.grantedScopes
  approved : policy.approvalRequired = true → request.approved = true
  registered : (gateway.handlers request.toolName).isSome = true
  passed : ∃ guarded, gateway.applyGuardrails texts request = .ok guarded ∧
    gateway.withSecretLeases texts guarded policy = .ok call
  valid : Schema.validate texts.format policy.inputSchema (.dict call.toolInput) = .ok []

theorem lift_bind {α β : Type} (result : Except ToolGatewayError α) (f : α → Op Lease β)
    (calls : List (ToolGatewayRequest Lease)) :
    ((lift result : Op Lease α) >>= f) calls =
      match result with
      | .ok a => f a calls
      | .error e => (.error e, calls) := by
  cases result <;> rfl

theorem missingScopes_eq_nil (policy : ToolPolicy) (request : ToolGatewayRequest Lease) :
    missingScopes policy request = [] ↔
      ∀ scope ∈ policy.requiredScopes, scope ∈ request.grantedScopes := by
  unfold missingScopes
  constructor
  · intro nothing scope required
    have perm := List.perm_insertionSort (fun a b : String => a ≤ b)
      (policy.requiredScopes.filter fun scope => scope ∉ request.grantedScopes).dedup
    rw [nothing] at perm
    have none_missing := perm.symm.eq_nil
    by_contra missing
    have member : scope ∈ (policy.requiredScopes.filter fun scope =>
        scope ∉ request.grantedScopes).dedup := by
      rw [List.mem_dedup, List.mem_filter]
      exact ⟨required, by simpa using missing⟩
    rw [none_missing] at member
    cases member
  · intro granted
    have none_missing : policy.requiredScopes.filter (fun scope => scope ∉ request.grantedScopes) = [] := by
      rw [List.filter_eq_nil_iff]
      intro scope required
      simpa using granted scope required
    rw [none_missing]
    rfl

theorem checkPolicy_allowed : (gateway.checkPolicy request).allowed = true ↔
    ∃ policy, gateway.policies request.toolName = some policy ∧ policy.enabled = true ∧
      (∀ scope ∈ policy.requiredScopes, scope ∈ request.grantedScopes) ∧
      (gateway.checkPolicy request).approvalRequired = policy.approvalRequired := by
  unfold checkPolicy
  cases known : gateway.policies request.toolName with
  | none => simp
  | some policy =>
    dsimp only
    by_cases disabled : policy.enabled = false
    · simp [disabled]
    · rw [if_neg disabled]
      rw [Bool.not_eq_false] at disabled
      by_cases missing : missingScopes policy request = []
      · rw [if_neg (not_not.mpr missing)]
        have granted := (missingScopes_eq_nil policy request).mp missing
        simp only [Option.some.injEq, true_iff]
        exact ⟨policy, rfl, disabled, granted, rfl⟩
      · rw [if_pos missing]
        simp only [Option.some.injEq, Bool.false_eq_true, false_iff]
        rintro ⟨_, rfl, -, granted, -⟩
        exact missing ((missingScopes_eq_nil _ _).mpr granted)

def Redacted (texts : PythonTexts) (decision : GuardrailDecision)
    (request guarded : ToolGatewayRequest Lease) : Prop :=
  if decision.action = .redact ∧ decision.redactions ≠ [] then
    ∃ redacted, redactInput texts decision.redactions request.toolInput = .ok redacted ∧
      guarded = { request with toolInput := redacted }
  else guarded = request

theorem applyGuardrails_ok {guarded : ToolGatewayRequest Lease} {service : GuardrailService}
    (given : gateway.guardrailService = some service) :
    gateway.applyGuardrails texts request = .ok guarded ↔
      ∃ decision, service (evaluationRequest texts request) = .ok decision ∧
        decision.blocked = false ∧ (decision.approvalRequired = true → request.approved = true) ∧
        Redacted texts decision request guarded := by
  unfold applyGuardrails
  rw [given]
  dsimp only
  cases answered : service (evaluationRequest texts request) with
  | error e => simp [Except.mapError, bind, Except.bind]
  | ok decision =>
    simp only [Except.mapError, bind, Except.bind, Except.ok.injEq, exists_eq_left']
    cases blocked : decision.blocked with
    | true => simp [throw, throwThe, MonadExceptOf.throw]
    | false =>
      simp only [Bool.false_eq_true, if_false, true_and, pure, Except.pure]
      by_cases held : (decision.approvalRequired && !request.approved) = true
      · rw [if_pos held]
        simp only [Bool.and_eq_true, Bool.not_eq_true'] at held
        simp [throw, throwThe, MonadExceptOf.throw, held.1, held.2]
      · rw [if_neg held]
        simp only [Bool.and_eq_true, Bool.not_eq_true', not_and, Bool.not_eq_false] at held
        have granted : decision.approvalRequired = true → request.approved = true := held
        unfold Redacted
        by_cases redacts : decision.action = .redact ∧ decision.redactions ≠ []
        · rw [if_pos redacts, if_pos redacts]
          cases redactInput texts decision.redactions request.toolInput with
          | error e => simp
          | ok redacted =>
            simp only [Except.ok.injEq, exists_eq_left']
            exact ⟨fun same => ⟨granted, same.symm⟩, fun both => both.2.symm⟩
        · rw [if_neg redacts, if_neg redacts]
          simp only [Except.ok.injEq]
          exact ⟨fun same => ⟨granted, same.symm⟩, fun both => both.2.symm⟩

theorem applyGuardrails_none (absent : gateway.guardrailService = none) :
    gateway.applyGuardrails texts request = .ok request := by
  unfold applyGuardrails
  rw [absent]

theorem Redacted.toolName {decision : GuardrailDecision} {guarded : ToolGatewayRequest Lease}
    (redacted : Redacted texts decision request guarded) : guarded.toolName = request.toolName := by
  unfold Redacted at redacted
  split at redacted
  · obtain ⟨_, -, rfl⟩ := redacted
    rfl
  · rw [redacted]

theorem applyGuardrails_toolName {guarded : ToolGatewayRequest Lease}
    (passed : gateway.applyGuardrails texts request = .ok guarded) :
    guarded.toolName = request.toolName := by
  cases given : gateway.guardrailService with
  | none =>
    rw [applyGuardrails_none given] at passed
    rw [← Except.ok.inj passed]
  | some service =>
    obtain ⟨decision, -, -, -, redacted⟩ := (applyGuardrails_ok given).mp passed
    exact redacted.toolName

theorem validatePayload_ok {direction : String} {payload schema : Items} :
    validatePayload texts direction payload schema = .ok () ↔
      Schema.validate texts.format schema (.dict payload) = .ok [] := by
  unfold validatePayload
  cases Schema.validate texts.format schema (.dict payload) with
  | error e => simp [Except.mapError, bind, Except.bind]
  | ok errors =>
    cases errors with
    | nil => simp [Except.mapError, bind, Except.bind, pure, Except.pure]
    | cons error rest =>
      simp [Except.mapError, bind, Except.bind, throw, throwThe, MonadExceptOf.throw]

theorem executeRequest_of_cleared {policy : ToolPolicy}
    (cleared : Cleared texts gateway policy request call) :
    (gateway.executeRequest texts request []).2 = [call] := by
  obtain ⟨known, enabled, scopes, approved, registered, ⟨guarded, guards, leased⟩, valid⟩ := cleared
  have allowed : (gateway.checkPolicy request).allowed = true ∧
      (gateway.checkPolicy request).approvalRequired = policy.approvalRequired := by
    have holds : (gateway.checkPolicy request).allowed = true := by
      unfold checkPolicy
      rw [known]
      simp [enabled, (missingScopes_eq_nil policy request).mpr scopes]
    obtain ⟨other, known', -, -, same⟩ := checkPolicy_allowed.mp holds
    rw [known] at known'
    cases known'
    exact ⟨holds, same⟩
  obtain ⟨handler, found⟩ := Option.isSome_iff_exists.mp registered
  unfold executeRequest
  dsimp only
  rw [ensure_bind, if_pos allowed.1, ensure_bind, allowed.2, if_pos approved, lift_bind, guards]
  dsimp only
  rw [applyGuardrails_toolName guards, known, found]
  dsimp only
  rw [lift_bind, leased]
  dsimp only
  rw [lift_bind, validatePayload_ok.mpr valid]
  dsimp only
  rw [update_bind, lift_bind]
  cases handler call with
  | error e => rfl
  | ok answer =>
    dsimp only
    cases answer with
    | result result =>
      dsimp only
      rw [lift_bind]
      dsimp only
      rw [lift_bind]
      cases validatePayload texts "output" result.output policy.outputSchema <;> rfl
    | dict items =>
      dsimp only
      rw [lift_bind]
      cases ToolResult.modelValidate items with
      | error e => rfl
      | ok result =>
        dsimp only
        rw [lift_bind]
        cases validatePayload texts "output" result.output policy.outputSchema <;> rfl

theorem executeRequest_of_refused (refused : ∀ policy call, ¬Cleared texts gateway policy request call) :
    ∃ e, gateway.executeRequest texts request [] = (.error e, []) := by
  unfold executeRequest
  dsimp only
  rw [ensure_bind]
  by_cases allowed : (gateway.checkPolicy request).allowed = true
  swap
  · exact ⟨_, if_neg allowed⟩
  rw [if_pos allowed, ensure_bind]
  obtain ⟨policy, known, enabled, scopes, same⟩ := checkPolicy_allowed.mp allowed
  rw [same]
  by_cases approved : policy.approvalRequired = true → request.approved = true
  swap
  · exact ⟨_, if_neg approved⟩
  rw [if_pos approved, lift_bind]
  cases guards : gateway.applyGuardrails texts request with
  | error e => exact ⟨e, rfl⟩
  | ok guarded =>
    dsimp only
    rw [applyGuardrails_toolName guards, known]
    cases registered : gateway.handlers request.toolName with
    | none => exact ⟨_, rfl⟩
    | some handler =>
      dsimp only
      rw [lift_bind]
      cases leased : gateway.withSecretLeases texts guarded policy with
      | error e => exact ⟨e, rfl⟩
      | ok call =>
        dsimp only
        rw [lift_bind]
        cases valid : validatePayload texts "input" call.toolInput policy.inputSchema with
        | error e => exact ⟨e, rfl⟩
        | ok _ =>
          refine absurd ?_ (refused policy call)
          exact ⟨known, enabled, scopes, approved, by simp [registered], ⟨guarded, guards, leased⟩,
            validatePayload_ok.mp valid⟩

/-- The call is authorised: policy, approval, guardrails and schema all agreed to it. -/
structure Authorised (texts : PythonTexts) (gateway : ToolGateway Lease) (policy : ToolPolicy)
    (request call : ToolGatewayRequest Lease) : Prop where
  known : gateway.policies request.toolName = some policy
  enabled : policy.enabled = true
  scopes : ∀ scope ∈ policy.requiredScopes, scope ∈ request.grantedScopes
  approved : policy.approvalRequired = true → request.approved = true
  guarded : ∀ service, gateway.guardrailService = some service → ∃ decision guarded,
    service (evaluationRequest texts request) = .ok decision ∧ decision.blocked = false ∧
    (decision.approvalRequired = true → request.approved = true) ∧
    Redacted texts decision request guarded ∧ call.toolInput = guarded.toolInput
  unguarded : gateway.guardrailService = none → call.toolInput = request.toolInput
  conforms : Schema.Conforms (.dict call.toolInput) policy.inputSchema

theorem withSecretLeases_toolInput {policy : ToolPolicy} {guarded : ToolGatewayRequest Lease}
    (leased : gateway.withSecretLeases texts guarded policy = .ok call) :
    call.toolInput = guarded.toolInput := by
  unfold withSecretLeases at leased
  split at leased
  · rw [← Except.ok.inj leased]
  · cases given : gateway.secretService with
    | none =>
      rw [given] at leased
      cases leased
    | some service =>
      rw [given] at leased
      obtain ⟨leases, -, same⟩ := except_bind_ok.mp leased
      rw [← Except.ok.inj same]

theorem Cleared.authorised {policy : ToolPolicy}
    (cleared : Cleared texts gateway policy request call) :
    Authorised texts gateway policy request call := by
  obtain ⟨known, enabled, scopes, approved, -, ⟨guarded, guards, leased⟩, valid⟩ := cleared
  refine ⟨known, enabled, scopes, approved, fun service given => ?_, fun absent => ?_,
    Schema.conforms_of_validateValue _ _ _ valid⟩
  · obtain ⟨decision, answered, unblocked, granted, redacted⟩ := (applyGuardrails_ok given).mp guards
    exact ⟨decision, guarded, answered, unblocked, granted, redacted,
      withSecretLeases_toolInput leased⟩
  · rw [applyGuardrails_none absent] at guards
    rw [withSecretLeases_toolInput leased, ← Except.ok.inj guards]

/-- With the rule service: no rule that matches and no finding blocks or quarantines, and where
one wants approval the request has it. -/
theorem Authorised.rules {policy : ToolPolicy}
    (authorised : Authorised texts gateway policy request call) (service : InMemoryGuardrailService)
    (given : gateway.guardrailService = some (service.evaluate texts.toTextRules)) :
    ∃ findings, InMemoryGuardrailService.findingsOf (evaluationRequest texts request)
        service.detectors = .ok findings ∧
      ∀ outcome ∈ outcomesOf (service.matchedRules texts.toTextRules
          (evaluationRequest texts request)) findings,
        outcome.action.blocks = false ∧
          (outcome.action = .requireApproval → request.approved = true) := by
  obtain ⟨decision, -, answered, unblocked, granted, -⟩ := authorised.guarded _ given
  unfold InMemoryGuardrailService.evaluate at answered
  obtain ⟨findings, found, decided⟩ := except_bind_ok.mp answered
  have decides := decisionOf_decides decided
  exact ⟨findings, found, fun outcome member => ⟨decides.unblocked unblocked outcome member,
    fun wants => granted (decides.approval unblocked member wants)⟩⟩

theorem handler_runs_authorised (texts : PythonTexts) (gateway : ToolGateway Lease)
    (request : ToolGatewayRequest Lease) :
    (∀ call ∈ (gateway.executeRequest texts request []).2, ∃ policy,
      Authorised texts gateway policy request call ∧
      ∀ service : InMemoryGuardrailService,
        gateway.guardrailService = some (service.evaluate texts.toTextRules) →
        ∃ findings, InMemoryGuardrailService.findingsOf (evaluationRequest texts request)
            service.detectors = .ok findings ∧
          ∀ outcome ∈ outcomesOf (service.matchedRules texts.toTextRules
              (evaluationRequest texts request)) findings,
            outcome.action.blocks = false ∧
              (outcome.action = .requireApproval → request.approved = true)) ∧
    (∀ policy call, Cleared texts gateway policy request call →
      (gateway.executeRequest texts request []).2 = [call]) ∧
    ((∀ policy call, ¬Cleared texts gateway policy request call) →
      ∃ e, gateway.executeRequest texts request [] = (.error e, [])) := by
  refine ⟨fun call called => ?_, fun policy call => executeRequest_of_cleared,
    executeRequest_of_refused⟩
  by_cases cleared : ∃ policy call, Cleared texts gateway policy request call
  · obtain ⟨policy, made, cleared⟩ := cleared
    rw [executeRequest_of_cleared cleared, List.mem_singleton] at called
    subst called
    exact ⟨policy, cleared.authorised, cleared.authorised.rules⟩
  · obtain ⟨e, raised⟩ := executeRequest_of_refused fun policy call one => cleared ⟨policy, call, one⟩
    rw [raised] at called
    cases called

end ToolGateway

end Taroai.Governance
