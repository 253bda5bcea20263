import Taroai.Governance.Authorised

/-! What a further rule changes. The redactions of a decision are those of every REDACT rule
and finding that matched, whichever action won; both enforcement points, the tool gateway and
the runtime's model request, apply them only when REDACT won. -/

namespace Taroai.Governance

open Json

section Redactions

variable {texts : TextRules}

/-- Every template of the redactions is one that `re.sub` accepts. -/
def WellFormed (texts : TextRules) (redactions : List GuardrailRedaction) : Prop :=
  ∀ redaction ∈ redactions, ∃ put, texts.template redaction.replacement = .ok put

theorem sub_ok {caseSensitive : Bool} {term replacement text : String} :
    (∃ result, texts.sub caseSensitive term replacement text = .ok result) ↔
      ∃ put, texts.template replacement = .ok put := by
  unfold TextRules.sub
  cases texts.template replacement with
  | error e => simp [bind, Except.bind]
  | ok put => simp [bind, Except.bind, pure, Except.pure]

theorem applyRedactions_append (xs ys : List GuardrailRedaction) :
    applyRedactions texts (xs ++ ys) =
      fun content => applyRedactions texts xs content >>= applyRedactions texts ys := by
  induction xs with
  | nil => rfl
  | cons redaction rest ih =>
    funext content
    rw [List.cons_append, applyRedactions, applyRedactions, ih]
    cases texts.sub redaction.caseSensitive redaction.text redaction.replacement content <;> rfl

theorem applyRedactions_ok (redactions : List GuardrailRedaction) (content : String) :
    (∃ result, applyRedactions texts redactions content = .ok result) ↔
      WellFormed texts redactions := by
  induction redactions generalizing content with
  | nil => simp [applyRedactions, WellFormed]
  | cons redaction rest ih =>
    have split_off : WellFormed texts (redaction :: rest) ↔
        (∃ put, texts.template redaction.replacement = .ok put) ∧ WellFormed texts rest := by
      unfold WellFormed
      simp
    rw [split_off, applyRedactions]
    constructor
    · rintro ⟨result, done⟩
      obtain ⟨first, one, others⟩ := except_bind_ok.mp done
      exact ⟨sub_ok.mp ⟨first, one⟩, (ih first).mp ⟨result, others⟩⟩
    · rintro ⟨template, formed⟩
      obtain ⟨first, one⟩ := sub_ok.mpr template
      obtain ⟨result, others⟩ := (ih first).mpr formed
      exact ⟨result, except_bind_ok.mpr ⟨first, one, others⟩⟩

theorem redactTerms_eq {caseSensitive : Bool} {replacement : String} {terms : List String}
    {redactions : List GuardrailRedaction}
    (listed : termRedactions caseSensitive replacement terms = .ok redactions) (content : String) :
    GuardrailCondition.redactTerms texts caseSensitive replacement terms content =
      applyRedactions texts redactions content := by
  induction terms generalizing redactions content with
  | nil =>
    cases listed
    rfl
  | cons term rest ih =>
    rw [termRedactions] at listed
    split at listed
    · obtain ⟨others, tail, same⟩ := except_bind_ok.mp listed
      cases same
      rw [GuardrailCondition.redactTerms, applyRedactions]
      cases texts.sub caseSensitive term replacement content with
      | error e => rfl
      | ok result => exact ih tail result
    · cases listed

theorem redactedByRules_eq {matchedRules : List GuardrailRule} {own : List GuardrailRedaction}
    (listed : ruleRedactions matchedRules = .ok own) (content : String) :
    redactedByRules texts matchedRules content = applyRedactions texts own content := by
  induction matchedRules generalizing own content with
  | nil =>
    cases listed
    rfl
  | cons rule rest ih =>
    rw [ruleRedactions] at listed
    obtain ⟨first, terms, listed⟩ := except_bind_ok.mp listed
    obtain ⟨others, tail, same⟩ := except_bind_ok.mp listed
    cases same
    rw [redactedByRules, applyRedactions_append]
    unfold ownRedactions at terms
    by_cases redacts : rule.action = .redact
    · rw [if_pos redacts] at terms ⊢
      rw [GuardrailCondition.redact, redactTerms_eq terms]
      change _ = applyRedactions texts first content >>= applyRedactions texts others
      cases applyRedactions texts first content with
      | error e => rfl
      | ok result => exact ih tail result
    · rw [if_neg redacts] at terms ⊢
      cases terms
      exact ih tail content

theorem ruleRedactions_append (xs ys : List GuardrailRule) :
    ruleRedactions (xs ++ ys) = do
      let own ← ruleRedactions xs
      let more ← ruleRedactions ys
      return own ++ more := by
  induction xs with
  | nil =>
    rw [List.nil_append, ruleRedactions]
    cases ruleRedactions ys <;> rfl
  | cons rule rest ih =>
    rw [List.cons_append, ruleRedactions, ruleRedactions, ih]
    cases ownRedactions rule with
    | error e => rfl
    | ok first =>
      cases ruleRedactions rest with
      | error e => rfl
      | ok own =>
        cases ruleRedactions ys with
        | error e => rfl
        | ok more => simp [bind, Except.bind, pure, Except.pure]

theorem ruleRedactions_append_ok {xs ys : List GuardrailRule} {all : List GuardrailRedaction}
    (listed : ruleRedactions (xs ++ ys) = .ok all) :
    ∃ own more, ruleRedactions xs = .ok own ∧ ruleRedactions ys = .ok more ∧ all = own ++ more := by
  rw [ruleRedactions_append] at listed
  obtain ⟨own, first, listed⟩ := except_bind_ok.mp listed
  obtain ⟨more, second, same⟩ := except_bind_ok.mp listed
  exact ⟨own, more, first, second, (Except.ok.inj same).symm⟩

theorem redactions_nil {matchedRules : List GuardrailRule}
    (findings : List GuardrailDetectorFinding) {own : List GuardrailRedaction}
    (listed : ruleRedactions matchedRules = .ok own)
    (unredacted : ∀ outcome ∈ outcomesOf matchedRules findings, outcome.action ≠ .redact) :
    own ++ findingRedactions findings = [] := by
  have rules : ∀ rule ∈ matchedRules, rule.action ≠ .redact := fun rule member =>
    unredacted _ (List.mem_append_left _ (List.mem_map_of_mem member))
  have found : ∀ finding ∈ findings, finding.action ≠ .redact := fun finding member =>
    unredacted ⟨finding.action, finding.severity, finding.message⟩
      (List.mem_append_right _ (List.mem_map_of_mem member))
  have own_nil : own = [] := by
    induction matchedRules generalizing own with
    | nil =>
      cases listed
      rfl
    | cons rule rest ih =>
      rw [ruleRedactions, ownRedactions, if_neg (rules rule List.mem_cons_self)] at listed
      obtain ⟨first, nothing, listed⟩ := except_bind_ok.mp listed
      obtain ⟨others, tail, same⟩ := except_bind_ok.mp listed
      cases nothing
      cases same
      exact ih tail (fun outcome member => unredacted outcome (by
        rcases List.mem_append.mp member with member | member
        · exact List.mem_append_left _ (List.mem_cons_of_mem _ member)
        · exact List.mem_append_right _ member)) fun other member =>
        rules other (List.mem_cons_of_mem _ member)
  have found_nil : findingRedactions findings = [] := by
    unfold findingRedactions
    rw [List.flatMap_eq_nil_iff]
    exact fun finding member => if_neg (found finding member)
  rw [own_nil, found_nil]
  rfl

end Redactions

section Evaluation

open InMemoryGuardrailService

variable {texts : TextRules}

theorem redactedContent_ok (content : String) {rules : List GuardrailRule}
    {findings : List GuardrailDetectorFinding} {own : List GuardrailRedaction}
    (listed : ruleRedactions rules = .ok own) :
    (∃ redacted, redactedContent texts content rules findings = .ok redacted) ↔
      WellFormed texts (own ++ findingRedactions findings) := by
  rw [← applyRedactions_ok _ content, applyRedactions_append]
  unfold redactedContent
  rw [redactedByRules_eq listed]
  constructor
  · rintro ⟨redacted, done⟩
    obtain ⟨first, one, rest⟩ := except_bind_ok.mp done
    obtain ⟨second, two, -⟩ := except_bind_ok.mp rest
    exact ⟨second, except_bind_ok.mpr ⟨first, one, two⟩⟩
  · rintro ⟨second, done⟩
    obtain ⟨first, one, two⟩ := except_bind_ok.mp done
    exact ⟨_, except_bind_ok.mpr ⟨first, one, except_bind_ok.mpr ⟨second, two, rfl⟩⟩⟩

theorem evaluate_ok {service : InMemoryGuardrailService} {asked : GuardrailEvaluationRequest}
    {decision : GuardrailDecision} (answered : service.evaluate texts asked = .ok decision) :
    ∃ findings own, findingsOf asked service.detectors = .ok findings ∧
      decision.Decides (service.matchedRules texts asked) findings ∧
      ruleRedactions (service.matchedRules texts asked) = .ok own ∧
      decision.redactions = own ++ findingRedactions findings ∧
      WellFormed texts (own ++ findingRedactions findings) := by
  unfold evaluate at answered
  obtain ⟨findings, found, decided⟩ := except_bind_ok.mp answered
  have decides := decisionOf_decides decided
  obtain ⟨own, listed, redactions⟩ := decides.redactions
  refine ⟨findings, own, found, decides, listed, redactions, ?_⟩
  unfold decisionOf at decided
  cases outcomes : outcomesOf (service.matchedRules texts asked) findings with
  | nil =>
    have nothing := redactions_nil findings listed (by simp [outcomes])
    rw [nothing]
    intro redaction member
    cases member
  | cons first others =>
    rw [outcomes] at decided
    obtain ⟨content, redacted, -⟩ := except_bind_ok.mp decided
    exact (redactedContent_ok asked.content listed).mp ⟨content, redacted⟩

theorem exists_decision (service : InMemoryGuardrailService) {asked : GuardrailEvaluationRequest}
    {findings : List GuardrailDetectorFinding} {own : List GuardrailRedaction}
    (found : findingsOf asked service.detectors = .ok findings)
    (listed : ruleRedactions (service.matchedRules texts asked) = .ok own)
    (formed : WellFormed texts (own ++ findingRedactions findings)) :
    ∃ decision, service.evaluate texts asked = .ok decision := by
  obtain ⟨content, redacted⟩ := (redactedContent_ok asked.content listed).mpr formed
  unfold evaluate
  rw [found]
  change ∃ decision, decisionOf texts asked (service.matchedRules texts asked) findings = .ok decision
  unfold decisionOf
  cases outcomesOf (service.matchedRules texts asked) findings with
  | nil => exact ⟨_, rfl⟩
  | cons first others =>
    dsimp only
    rw [redacted, listed]
    exact ⟨_, rfl⟩

theorem matchedRules_addRule (service : InMemoryGuardrailService) (rule : GuardrailRule)
    (asked : GuardrailEvaluationRequest) :
    (service.addRule rule).matchedRules texts asked = service.matchedRules texts asked ++
      matchedRules texts ⟨[rule], []⟩ asked := by
  unfold matchedRules addRule
  exact List.filter_append _ _

end Evaluation

section Enforcement

/-- What is enforced on: its redaction, as a fold of single redactions over all its texts. -/
structure Redactor (texts : TextRules) (P : Type) where
  redact : List GuardrailRedaction → P → Except GuardrailError P
  nil : ∀ p, redact [] p = .ok p
  append : ∀ xs ys p r, redact (xs ++ ys) p = .ok r ↔
    ∃ q, redact xs p = .ok q ∧ redact ys q = .ok r
  total : ∀ xs p, WellFormed texts xs → ∃ q, redact xs p = .ok q

variable {texts : TextRules} {P : Type} (redactor : Redactor texts P)

def enforce (granted : Bool) (decision : GuardrailDecision) (p : P) : Option P :=
  if decision.blocked then none
  else if decision.approvalRequired && !granted then none
  else if decision.action = .redact ∧ decision.redactions ≠ [] then
    (redactor.redact decision.redactions p).toOption
  else some p

def WantsApproval (outcomes : List GuardrailOutcome) : Prop :=
  (∃ outcome ∈ outcomes, outcome.action = .requireApproval) ∧
    ∀ outcome ∈ outcomes, outcome.action.blocks = false

theorem GuardrailDecision.Decides.wants {decision : GuardrailDecision} {rules : List GuardrailRule}
    {findings : List GuardrailDetectorFinding} (decides : decision.Decides rules findings) :
    decision.blocked = false ∧ decision.approvalRequired = true ↔
      WantsApproval (outcomesOf rules findings) := by
  constructor
  · rintro ⟨unblocked, wants⟩
    rw [decides.approvalRequired, decide_eq_true_iff] at wants
    refine ⟨?_, decides.unblocked unblocked⟩
    rcases decides.chosen with allowed | ⟨outcome, member, same⟩
    · rw [wants] at allowed
      cases allowed
    · exact ⟨outcome, member, same.trans wants⟩
  · rintro ⟨⟨outcome, member, wants⟩, open_⟩
    have unblocked : decision.blocked = false := by
      rw [decides.blocked]
      rcases decides.chosen with allowed | ⟨other, there, same⟩
      · rw [allowed]
        rfl
      · rw [← same]
        exact open_ other there
    exact ⟨unblocked, decides.approval unblocked member wants⟩

theorem enforce_redacts {granted : Bool} {decision : GuardrailDecision} {rules : List GuardrailRule}
    {findings : List GuardrailDetectorFinding} {own : List GuardrailRedaction} {p : P}
    (decides : decision.Decides rules findings) (listed : ruleRedactions rules = .ok own)
    (redactions : decision.redactions = own ++ findingRedactions findings)
    (unblocked : decision.blocked = false) (unasked : decision.approvalRequired = false) :
    enforce redactor granted decision p =
      (redactor.redact (own ++ findingRedactions findings) p).toOption := by
  unfold enforce
  rw [if_neg (by simp [unblocked]), if_neg (by simp [unasked]), redactions]
  by_cases redacts : decision.action = .redact
  · by_cases some_ : own ++ findingRedactions findings = []
    · rw [if_neg (fun both => both.2 some_), some_, redactor.nil]
      rfl
    · rw [if_pos ⟨redacts, some_⟩]
  · rw [if_neg fun both => redacts both.1]
    have low : decision.action.priority < GuardrailAction.redact.priority := by
      rw [decides.blocked] at unblocked
      rw [decides.approvalRequired, decide_eq_false_iff_not] at unasked
      cases action : decision.action <;> simp_all [GuardrailAction.priority, GuardrailAction.blocks]
    have nothing := redactions_nil findings listed fun outcome member same => by
      have below := decides.greatest outcome member
      rw [same] at below
      omega
    rw [nothing, redactor.nil]
    rfl

/-- What goes on with the payload when the service is asked and the decision enforced. -/
def proceed (granted : List String → List String → Bool) (service : InMemoryGuardrailService)
    (asked : GuardrailEvaluationRequest) (p : P) : Option P :=
  match service.evaluate texts asked with
  | .error _ => none
  | .ok decision =>
    enforce redactor (granted decision.matchedRuleIds decision.detectorFindingIds) decision p

/-- The larger set goes on with `q`: the smaller one allowed the payload as well, under no
stronger action, and every redaction of a rule of the smaller set is made in `q`. -/
structure NotWeaker (service : InMemoryGuardrailService) (rule : GuardrailRule)
    (asked : GuardrailEvaluationRequest) (p q : P) : Prop where
  before : ∃ decision r, service.evaluate texts asked = .ok decision ∧
    enforce redactor true decision p = some r
  stronger : ∀ decision decision', service.evaluate texts asked = .ok decision →
    (service.addRule rule).evaluate texts asked = .ok decision' →
    decision.action.priority ≤ decision'.action.priority
  removed : ∃ own rest redacted, ruleRedactions (service.matchedRules texts asked) = .ok own ∧
    redactor.redact own p = .ok redacted ∧ redactor.redact rest redacted = .ok q ∧
    ∃ findings more,
      InMemoryGuardrailService.findingsOf asked service.detectors = .ok findings ∧
      ruleRedactions (InMemoryGuardrailService.matchedRules texts ⟨[rule], []⟩ asked) = .ok more ∧
      rest = more ++ findingRedactions findings

def Untouched (rules : List GuardrailRule) (findings : List GuardrailDetectorFinding) (p : P) :
    Prop :=
  ∀ own redacted, ruleRedactions rules = .ok own →
    WellFormed texts (own ++ findingRedactions findings) →
    redactor.redact (own ++ findingRedactions findings) p = .ok redacted → redacted = p

variable {service : InMemoryGuardrailService} {rule : GuardrailRule}
  {asked : GuardrailEvaluationRequest} {granted : List String → List String → Bool} {p : P}

theorem outcomesOf_addRule {findings : List GuardrailDetectorFinding} {outcome : GuardrailOutcome}
    (member : outcome ∈ outcomesOf (service.matchedRules texts asked) findings) :
    outcome ∈ outcomesOf ((service.addRule rule).matchedRules texts asked) findings := by
  rw [matchedRules_addRule]
  unfold outcomesOf at member ⊢
  rw [List.map_append, List.append_assoc]
  rcases List.mem_append.mp member with member | member
  · exact List.mem_append_left _ member
  · exact List.mem_append_right _ (List.mem_append_right _ member)

theorem priority_le_addRule {decision decision' : GuardrailDecision}
    (answered : service.evaluate texts asked = .ok decision)
    (answered' : (service.addRule rule).evaluate texts asked = .ok decision') :
    decision.action.priority ≤ decision'.action.priority := by
  obtain ⟨findings, -, found, decides, -⟩ := evaluate_ok answered
  obtain ⟨findings', -, found', decides', -⟩ := evaluate_ok answered'
  have same : findings = findings' := Except.ok.inj (found.symm.trans found')
  subst same
  rcases decides.chosen with allowed | ⟨outcome, member, chosen⟩
  · rw [allowed]
    exact Nat.zero_le _
  · rw [← chosen]
    exact decides'.greatest outcome (outcomesOf_addRule member)

theorem enforce_granted {decision : GuardrailDecision} {redactions : List GuardrailRedaction}
    (unblocked : decision.blocked = false) (same : decision.redactions = redactions)
    (formed : WellFormed texts redactions) :
    ∃ r, enforce redactor true decision p = some r := by
  unfold enforce
  rw [if_neg (by simp [unblocked]), if_neg (by simp), same]
  split
  · obtain ⟨q, done⟩ := redactor.total redactions p formed
    exact ⟨q, by rw [done]; rfl⟩
  · exact ⟨p, rfl⟩

/-- A further rule weakens nothing, unless a call goes on by approval with something in it that
was to be redacted. -/
theorem growth_iff (service : InMemoryGuardrailService) (rule : GuardrailRule)
    (asked : GuardrailEvaluationRequest) (granted : List String → List String → Bool) (p : P) :
    (∀ q, proceed redactor granted (service.addRule rule) asked p = some q →
      NotWeaker redactor service rule asked p q) ↔
    ∀ findings, InMemoryGuardrailService.findingsOf asked service.detectors = .ok findings →
      WantsApproval (outcomesOf ((service.addRule rule).matchedRules texts asked) findings) →
      granted (((service.addRule rule).matchedRules texts asked).map GuardrailRule.id)
        (findings.map GuardrailDetectorFinding.id) = true →
      Untouched redactor ((service.addRule rule).matchedRules texts asked) findings p := by
  constructor
  · intro safe findings found wants approved own redacted listed formed done
    obtain ⟨decision, answered⟩ :=
      exists_decision (service.addRule rule) found listed formed
    obtain ⟨findings', -, found', decides, -⟩ := evaluate_ok answered
    have same : findings = findings' := Except.ok.inj (found.symm.trans found')
    subst same
    obtain ⟨unblocked, asks⟩ := decides.wants.mpr wants
    have goes_on : proceed redactor granted (service.addRule rule) asked p = some p := by
      have action : decision.action = .requireApproval := by
        rw [decides.approvalRequired, decide_eq_true_iff] at asks
        exact asks
      unfold proceed enforce
      rw [answered]
      dsimp only
      rw [decides.matchedRuleIds, decides.detectorFindingIds, approved,
        if_neg (by simp [unblocked]), if_neg (by simp), if_neg (by simp [action])]
    obtain ⟨own', rest, middle, listed', first, second, findings', more, found'', listed'', rfl⟩ :=
      (safe p goes_on).removed
    have same : findings = findings' := Except.ok.inj (found.symm.trans found'')
    subst same
    rw [matchedRules_addRule, ruleRedactions_append, listed', listed''] at listed
    cases listed
    have whole := (redactor.append own' (more ++ findingRedactions findings) p p).mpr
      ⟨middle, first, second⟩
    rw [← List.append_assoc] at whole
    exact Except.ok.inj (done.symm.trans whole)
  · intro untouched q goes_on
    unfold proceed at goes_on
    cases answered : (service.addRule rule).evaluate texts asked with
    | error e =>
      rw [answered] at goes_on
      cases goes_on
    | ok decision' =>
      rw [answered] at goes_on
      dsimp only at goes_on
      obtain ⟨findings, all, found, decides', listed, redactions', formed⟩ := evaluate_ok answered
      have listed_all := listed
      rw [matchedRules_addRule] at listed
      obtain ⟨own, more, first, second, rfl⟩ := ruleRedactions_append_ok listed
      have formed_own : WellFormed texts (own ++ findingRedactions findings) := by
        intro redaction member
        refine formed redaction ?_
        rcases List.mem_append.mp member with member | member
        · exact List.mem_append_left _ (List.mem_append_left _ member)
        · exact List.mem_append_right _ member
      obtain ⟨decision, before⟩ := exists_decision service found first formed_own
      have stronger := priority_le_addRule before answered
      have unblocked' : decision'.blocked = false := by
        by_contra blocked
        unfold enforce at goes_on
        rw [if_pos (by simpa using blocked)] at goes_on
        cases goes_on
      obtain ⟨findings', own', found', decides, listed', redactions, -⟩ := evaluate_ok before
      have same : findings = findings' := Except.ok.inj (found.symm.trans found')
      subst same
      have same : own = own' := Except.ok.inj (first.symm.trans listed')
      subst same
      have unblocked : decision.blocked = false := by
        rw [decides.blocked]
        rw [decides'.blocked] at unblocked'
        by_contra blocks
        rw [Bool.not_eq_false, GuardrailAction.blocks_iff] at blocks
        have : decision'.action.blocks = true := (GuardrailAction.blocks_iff _).mpr (by omega)
        rw [unblocked'] at this
        cases this
      obtain ⟨r, allowed⟩ := enforce_granted redactor (p := p) unblocked redactions formed_own
      have redacted : redactor.redact (own ++ more ++ findingRedactions findings) p = .ok q := by
        cases asks : decision'.approvalRequired with
        | true =>
          have wants := decides'.wants.mp ⟨unblocked', asks⟩
          have action : decision'.action = .requireApproval := by
            rw [decides'.approvalRequired, decide_eq_true_iff] at asks
            exact asks
          unfold enforce at goes_on
          rw [if_neg (by simp [unblocked'])] at goes_on
          split at goes_on
          · cases goes_on
          · next held =>
            have approved : granted decision'.matchedRuleIds decision'.detectorFindingIds = true := by
              simpa [asks] using held
            rw [if_neg (by simp [action])] at goes_on
            cases goes_on
            rw [decides'.matchedRuleIds, decides'.detectorFindingIds] at approved
            obtain ⟨q, done⟩ := redactor.total _ p formed
            rw [done, untouched findings found wants approved _ q listed_all formed done]
        | false =>
          rw [enforce_redacts redactor decides' listed_all redactions' unblocked' asks] at goes_on
          cases done : redactor.redact (own ++ more ++ findingRedactions findings) p with
          | error e =>
            rw [done] at goes_on
            cases goes_on
          | ok other =>
            rw [done] at goes_on
            cases goes_on
            rfl
      rw [List.append_assoc, redactor.append] at redacted
      obtain ⟨middle, one, two⟩ := redacted
      exact ⟨⟨decision, r, before, allowed⟩, fun d d' evaluated evaluated' =>
          priority_le_addRule evaluated evaluated',
        own, _, middle, first, one, two, findings, more, found, second, rfl⟩

end Enforcement

section ModelRequests

structure ModelMessage where
  role : String
  content : String

structure ModelRequest where
  messages : List ModelMessage
  input : Option String

inductive GuardrailRefusal where
  | violation (reason : String)
  | approvalRequired (guardrailKey reason : String)
  | raised (error : GuardrailError)

/-- `_guardrail_approval_key`. -/
def guardrailApprovalKey (stage : GuardrailStage) (ruleIds findingIds : List String)
    (action : GuardrailAction) : String :=
  let identifiers := if ruleIds ≠ [] then ruleIds else findingIds
  if identifiers ≠ [] then stage.value ++ ":" ++ ",".intercalate identifiers
  else stage.value ++ ":" ++ action.value

variable (texts : TextRules)

def redactMessages (redactions : List GuardrailRedaction) :
    List ModelMessage → Except GuardrailError (List ModelMessage)
  | [] => .ok []
  | message :: rest => do
    let content ← applyRedactions texts redactions message.content
    let others ← redactMessages redactions rest
    return { message with content := content } :: others

def redactOptional (redactions : List GuardrailRedaction) :
    Option String → Except GuardrailError (Option String)
  | none => .ok none
  | some input => (applyRedactions texts redactions input).map some

def redactModelRequest (redactions : List GuardrailRedaction) (request : ModelRequest) :
    Except GuardrailError ModelRequest := do
  let messages ← redactMessages texts redactions request.messages
  let input ← redactOptional texts redactions request.input
  return ⟨messages, input⟩

/-- `_apply_model_guardrail_decision_to_request`, without its audit records. -/
def applyModelGuardrailDecisionToRequest (request : ModelRequest) (decision : GuardrailDecision)
    (approvedGuardrailKeys : List String) : Except GuardrailRefusal ModelRequest :=
  if decision.blocked then .error (.violation "model_guardrail_blocked")
  else if decision.approvalRequired then
    let guardrailKey := guardrailApprovalKey .modelRequest decision.matchedRuleIds
      decision.detectorFindingIds decision.action
    if guardrailKey ∈ approvedGuardrailKeys then .ok request
    else .error (.approvalRequired guardrailKey
      (ToolGateway.messageOr decision.message "Model request requires guardrail approval"))
  else if decision.action = .redact ∧ decision.redactions ≠ [] then
    (redactModelRequest texts decision.redactions request).mapError .raised
  else .ok request

def applyModelRequestGuardrails (service : InMemoryGuardrailService)
    (asked : GuardrailEvaluationRequest) (request : ModelRequest)
    (approvedGuardrailKeys : List String) : Except GuardrailRefusal ModelRequest :=
  match service.evaluate texts asked with
  | .error e => .error (.raised e)
  | .ok decision =>
    applyModelGuardrailDecisionToRequest texts request decision approvedGuardrailKeys

variable {texts}

theorem redactMessages_append (xs ys : List GuardrailRedaction) (messages result : List ModelMessage) :
    redactMessages texts (xs ++ ys) messages = .ok result ↔
      ∃ middle, redactMessages texts xs messages = .ok middle ∧
        redactMessages texts ys middle = .ok result := by
  induction messages generalizing result with
  | nil => simp [redactMessages]
  | cons message rest ih =>
    simp only [redactMessages, applyRedactions_append, except_bind_ok, pure, Except.pure,
      Except.ok.injEq]
    constructor
    · rintro ⟨content, ⟨first, one, two⟩, others, tail, rfl⟩
      obtain ⟨middle, ones, twos⟩ := (ih others).mp tail
      exact ⟨_, ⟨first, one, middle, ones, rfl⟩, by
        simp [redactMessages, two, twos, bind, Except.bind, pure, Except.pure]⟩
    · rintro ⟨_, ⟨first, one, middle, ones, rfl⟩, done⟩
      simp only [redactMessages, except_bind_ok, pure, Except.pure, Except.ok.injEq] at done
      obtain ⟨content, two, others, twos, rfl⟩ := done
      exact ⟨content, ⟨first, one, two⟩, others, (ih others).mpr ⟨middle, ones, twos⟩, rfl⟩

theorem redactMessages_nil (messages : List ModelMessage) :
    redactMessages texts [] messages = .ok messages := by
  induction messages with
  | nil => rfl
  | cons message rest ih =>
    rw [redactMessages, ih]
    rfl

theorem redactMessages_total {redactions : List GuardrailRedaction}
    (formed : WellFormed texts redactions) (messages : List ModelMessage) :
    ∃ result, redactMessages texts redactions messages = .ok result := by
  induction messages with
  | nil => exact ⟨[], rfl⟩
  | cons message rest ih =>
    obtain ⟨content, one⟩ := (applyRedactions_ok redactions message.content).mpr formed
    obtain ⟨others, tail⟩ := ih
    exact ⟨_, by rw [redactMessages, one, tail]; rfl⟩

theorem redactOptional_append (xs ys : List GuardrailRedaction) (input result : Option String) :
    redactOptional texts (xs ++ ys) input = .ok result ↔
      ∃ middle, redactOptional texts xs input = .ok middle ∧
        redactOptional texts ys middle = .ok result := by
  cases input with
  | none => simp [redactOptional]
  | some input =>
    simp only [redactOptional, applyRedactions_append, except_map_ok, except_bind_ok]
    constructor
    · rintro ⟨content, ⟨first, one, two⟩, rfl⟩
      exact ⟨some first, ⟨first, one, rfl⟩, by simp [two, Except.map]⟩
    · rintro ⟨_, ⟨first, one, rfl⟩, done⟩
      simp only [except_map_ok] at done
      obtain ⟨content, two, rfl⟩ := done
      exact ⟨content, ⟨first, one, two⟩, rfl⟩

theorem redactOptional_total {redactions : List GuardrailRedaction}
    (formed : WellFormed texts redactions) (input : Option String) :
    ∃ result, redactOptional texts redactions input = .ok result := by
  cases input with
  | none => exact ⟨none, rfl⟩
  | some input =>
    obtain ⟨content, one⟩ := (applyRedactions_ok redactions input).mpr formed
    exact ⟨some content, by rw [redactOptional, one]; rfl⟩

def modelRedactor (texts : TextRules) : Redactor texts ModelRequest where
  redact := redactModelRequest texts
  nil := by
    rintro ⟨messages, input⟩
    unfold redactModelRequest
    rw [redactMessages_nil]
    cases input <;> rfl
  append := by
    rintro xs ys ⟨messages, input⟩ ⟨messages', input'⟩
    simp only [redactModelRequest, except_bind_ok, redactMessages_append, redactOptional_append,
      pure, Except.pure, Except.ok.injEq]
    constructor
    · rintro ⟨_, ⟨first, one, two⟩, _, ⟨given, three, four⟩, same⟩
      cases same
      exact ⟨⟨first, given⟩, ⟨first, one, given, three, rfl⟩, messages', two, input', four, rfl⟩
    · rintro ⟨_, ⟨first, one, given, three, rfl⟩, _, two, _, four, same⟩
      cases same
      exact ⟨messages', ⟨first, one, two⟩, input', ⟨given, three, four⟩, rfl⟩
  total := by
    rintro xs ⟨messages, input⟩ formed
    obtain ⟨messages', one⟩ := redactMessages_total formed messages
    obtain ⟨input', two⟩ := redactOptional_total formed input
    unfold redactModelRequest
    rw [one, two]
    exact ⟨_, rfl⟩

theorem applyModelRequestGuardrails_ok {service : InMemoryGuardrailService}
    {asked : GuardrailEvaluationRequest} {keys : List String} {request handed : ModelRequest} :
    applyModelRequestGuardrails texts service asked request keys = .ok handed ↔
      proceed (modelRedactor texts) (fun ruleIds findingIds =>
        decide (guardrailApprovalKey .modelRequest ruleIds findingIds .requireApproval ∈ keys))
        service asked request = some handed := by
  unfold applyModelRequestGuardrails proceed
  cases answered : service.evaluate texts asked with
  | error e => simp
  | ok decision =>
    obtain ⟨findings, own, -, decides, -⟩ := evaluate_ok answered
    have asks := decides.approvalRequired
    dsimp only
    unfold applyModelGuardrailDecisionToRequest enforce
    cases decision.blocked with
    | true => simp
    | false =>
      simp only [Bool.false_eq_true, if_false]
      cases wanted : decision.approvalRequired with
      | true =>
        rw [wanted] at asks
        have action : decision.action = .requireApproval := of_decide_eq_true asks.symm
        simp only [if_true, action, Bool.true_and]
        by_cases approved : guardrailApprovalKey .modelRequest decision.matchedRuleIds
            decision.detectorFindingIds .requireApproval ∈ keys
        · simp [approved]
        · simp [approved]
      | false =>
        simp only [Bool.false_eq_true, if_false, Bool.false_and]
        by_cases redacts : decision.action = .redact ∧ decision.redactions ≠ []
        · rw [if_pos redacts, if_pos redacts]
          change _ ↔ (redactModelRequest texts decision.redactions request).toOption = some handed
          cases redactModelRequest texts decision.redactions request <;>
            simp [Except.mapError, Except.toOption]
        · rw [if_neg redacts, if_neg redacts]
          simp

end ModelRequests

section ToolInputs

open ToolGateway

variable {Lease : Type} {texts : PythonTexts}

def inputRedactor (texts : PythonTexts) : Redactor texts.toTextRules Items where
  redact := redactInput texts
  nil := mapItems_ok
  append xs ys toolInput result := by
    unfold redactInput
    rw [applyRedactions_append]
    exact mapItems_comp toolInput result
  total xs toolInput formed :=
    mapItems_total (fun content => (applyRedactions_ok xs content).mpr formed) toolInput

def guardedBy (gateway : ToolGateway Lease) (texts : PythonTexts)
    (service : InMemoryGuardrailService) : ToolGateway Lease :=
  { gateway with guardrailService := some (service.evaluate texts.toTextRules) }

theorem applyGuardrails_iff {gateway : ToolGateway Lease} {service : InMemoryGuardrailService}
    {request handed : ToolGatewayRequest Lease} :
    (guardedBy gateway texts service).applyGuardrails texts request = .ok handed ↔
      proceed (inputRedactor texts) (fun _ _ => request.approved) service
          (evaluationRequest texts request) request.toolInput = some handed.toolInput ∧
        handed = { request with toolInput := handed.toolInput } := by
  rw [applyGuardrails_ok rfl]
  unfold proceed
  cases service.evaluate texts.toTextRules (evaluationRequest texts request) with
  | error e => simp
  | ok decision =>
    simp only [Except.ok.injEq, exists_eq_left']
    unfold enforce Redacted
    cases decision.blocked with
    | true => simp
    | false =>
      simp only [Bool.false_eq_true, if_false, true_and]
      by_cases held : (decision.approvalRequired && !request.approved) = true
      · rw [if_pos held]
        simp only [Bool.and_eq_true, Bool.not_eq_true'] at held
        simp [held.1, held.2]
      · rw [if_neg held]
        simp only [Bool.and_eq_true, Bool.not_eq_true', not_and, Bool.not_eq_false] at held
        by_cases redacts : decision.action = .redact ∧ decision.redactions ≠ []
        · rw [if_pos redacts, if_pos redacts]
          change _ ↔ (redactInput texts decision.redactions request.toolInput).toOption = _ ∧ _
          cases redactInput texts decision.redactions request.toolInput with
          | error e => simp [Except.toOption]
          | ok redacted =>
            simp only [Except.ok.injEq, exists_eq_left', Except.toOption, Option.some.injEq]
            constructor
            · rintro ⟨-, same⟩
              rw [same]
              exact ⟨rfl, rfl⟩
            · rintro ⟨same, whole⟩
              rw [same]
              exact ⟨held, whole⟩
        · rw [if_neg redacts, if_neg redacts]
          simp only [Option.some.injEq]
          constructor
          · rintro ⟨-, same⟩
            rw [same]
            exact ⟨rfl, rfl⟩
          · rintro ⟨same, whole⟩
            rw [← same] at whole
            exact ⟨held, whole⟩

/-- At both enforcement points a further rule weakens nothing if and only if no call goes on
by approval with something in it that a matching rule or finding redacts. -/
theorem further_rule_weakens_only_approved (texts : PythonTexts) (gateway : ToolGateway Lease)
    (service : InMemoryGuardrailService) (rule : GuardrailRule) :
    (∀ request : ToolGatewayRequest Lease,
      (∀ handed, (guardedBy gateway texts (service.addRule rule)).applyGuardrails texts request =
          .ok handed →
        NotWeaker (inputRedactor texts) service rule (evaluationRequest texts request)
          request.toolInput handed.toolInput) ↔
      ∀ findings, InMemoryGuardrailService.findingsOf (evaluationRequest texts request)
          service.detectors = .ok findings →
        WantsApproval (outcomesOf ((service.addRule rule).matchedRules texts.toTextRules
          (evaluationRequest texts request)) findings) →
        request.approved = true →
        Untouched (inputRedactor texts) ((service.addRule rule).matchedRules texts.toTextRules
          (evaluationRequest texts request)) findings request.toolInput) ∧
    ∀ (asked : GuardrailEvaluationRequest) (keys : List String) (request : ModelRequest),
      (∀ handed, applyModelRequestGuardrails texts.toTextRules (service.addRule rule) asked request
          keys = .ok handed →
        NotWeaker (modelRedactor texts.toTextRules) service rule asked request handed) ↔
      ∀ findings, InMemoryGuardrailService.findingsOf asked service.detectors = .ok findings →
        WantsApproval (outcomesOf ((service.addRule rule).matchedRules texts.toTextRules asked)
          findings) →
        guardrailApprovalKey .modelRequest
          (((service.addRule rule).matchedRules texts.toTextRules asked).map GuardrailRule.id)
          (findings.map GuardrailDetectorFinding.id) .requireApproval ∈ keys →
        Untouched (modelRedactor texts.toTextRules)
          ((service.addRule rule).matchedRules texts.toTextRules asked) findings request := by
  constructor
  · intro request
    refine Iff.trans ?_ (growth_iff (inputRedactor texts) service rule _
      (fun _ _ => request.approved) request.toolInput)
    constructor
    · intro safe toolInput goes_on
      exact safe { request with toolInput := toolInput } (applyGuardrails_iff.mpr ⟨goes_on, rfl⟩)
    · intro safe handed passed
      exact safe handed.toolInput (applyGuardrails_iff.mp passed).1
  · intro asked keys request
    have both := growth_iff (modelRedactor texts.toTextRules) service rule asked
      (fun ruleIds findingIds =>
        decide (guardrailApprovalKey .modelRequest ruleIds findingIds .requireApproval ∈ keys))
      request
    simp only [decide_eq_true_eq] at both
    refine Iff.trans ?_ both
    constructor
    · exact fun safe handed goes_on => safe handed (applyModelRequestGuardrails_ok.mpr goes_on)
    · exact fun safe handed passed => safe handed (applyModelRequestGuardrails_ok.mp passed)

def asciiTexts : PythonTexts where
  lower s := String.ofList (s.toList.map Char.toLower)
  alike a b := a.toLower = b.toLower
  template replacement := .ok fun _ => replacement.toList
  format _ := ""
  float _ := ""

def redactSecret : GuardrailRule where
  id := "redact-secret"
  stage := .toolRequest
  condition := { textContains := ["secret"] }
  action := .redact
  message := "secret"

def approveSecret : GuardrailRule where
  id := "approve-secret"
  stage := .toolRequest
  condition := { textContains := ["secret"] }
  action := .requireApproval
  message := "secret"

def secretRequest : ToolGatewayRequest Unit where
  tenantId := "tenant"
  workspaceId := "workspace"
  userId := "user"
  runId := "run"
  stepId := "step"
  toolName := "tool"
  toolInput := [("text", .text "the secret")]
  approved := true

def bareGateway : ToolGateway Unit where
  policies _ := none
  handlers _ := none

/-- Once a rule that wants approval is added, the approved call is handed the text that the
first rule had taken out of it. -/
theorem approval_hands_on_the_secret :
    (guardedBy bareGateway asciiTexts ⟨[redactSecret], []⟩).applyGuardrails asciiTexts
        secretRequest = .ok { secretRequest with toolInput := [("text", .text "the [REDACTED]")] } ∧
      (guardedBy bareGateway asciiTexts (InMemoryGuardrailService.addRule ⟨[redactSecret], []⟩
        approveSecret)).applyGuardrails asciiTexts secretRequest = .ok secretRequest ∧
      ¬NotWeaker (inputRedactor asciiTexts) ⟨[redactSecret], []⟩ approveSecret
        (evaluationRequest asciiTexts secretRequest) secretRequest.toolInput
        secretRequest.toolInput := by
  refine ⟨rfl, rfl, ?_⟩
  rintro ⟨-, -, own, rest, redacted, listed, one, two, findings, more, found, second, rfl⟩
  have own_is : own = [⟨"secret", "[REDACTED]", false, by decide⟩] := (Except.ok.inj listed).symm
  have more_is : more = [] := (Except.ok.inj second).symm
  have none_found : findings = [] := (Except.ok.inj found).symm
  subst own_is more_is none_found
  have taken_out : redacted = [("text", .text "the [REDACTED]")] := (Except.ok.inj one).symm
  rw [taken_out] at two
  have kept : [("text", Json.text "the [REDACTED]")] = [("text", Json.text "the secret")] :=
    Except.ok.inj two
  simp at kept

end ToolInputs

end Taroai.Governance
