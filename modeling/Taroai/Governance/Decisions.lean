import Taroai.Governance.RuleGrowth

/-! What a guardrail decision keeps when the rules and the findings come in another order. The
outcome is chosen by action and then by severity; among equals the first one gives the message. -/

namespace Taroai.Governance

open Json

def FirstGreatest (outcomes : List GuardrailOutcome) (chosen : GuardrailOutcome) : Prop :=
  ∃ before after, outcomes = before ++ chosen :: after ∧
    (∀ outcome ∈ before, outcome.below chosen = true) ∧
    ∀ outcome ∈ after, chosen.below outcome = false

/-- The key of `max` as one number. -/
def GuardrailOutcome.rank (outcome : GuardrailOutcome) : Nat :=
  4 * outcome.action.priority + outcome.severity.priority

theorem GuardrailSeverity.priority_lt (severity : GuardrailSeverity) : severity.priority < 4 := by
  cases severity <;> decide

theorem GuardrailSeverity.priority_inj {a b : GuardrailSeverity}
    (same : a.priority = b.priority) : a = b := by
  cases a <;> cases b <;> first | rfl | cases same

theorem GuardrailOutcome.below_iff (a b : GuardrailOutcome) :
    a.below b = true ↔ a.rank < b.rank := by
  have := a.severity.priority_lt
  have := b.severity.priority_lt
  unfold GuardrailOutcome.below GuardrailOutcome.rank
  simp only [Bool.or_eq_true, Bool.and_eq_true, decide_eq_true_eq]
  omega

theorem GuardrailOutcome.not_below_iff (a b : GuardrailOutcome) :
    a.below b = false ↔ b.rank ≤ a.rank := by
  rw [← Bool.not_eq_true, GuardrailOutcome.below_iff, not_lt]

theorem GuardrailOutcome.rank_inj {a b : GuardrailOutcome} (same : a.rank = b.rank) :
    a.action = b.action ∧ a.severity = b.severity := by
  have := a.severity.priority_lt
  have := b.severity.priority_lt
  unfold GuardrailOutcome.rank at same
  constructor
  · apply GuardrailAction.priority_inj
    omega
  · apply GuardrailSeverity.priority_inj
    omega

theorem selectedOutcome_first (seen rest : List GuardrailOutcome) (best : GuardrailOutcome)
    (first : FirstGreatest seen best) :
    FirstGreatest (seen ++ rest) (selectedOutcome best rest) := by
  induction rest generalizing seen best with
  | nil => rwa [List.append_nil]
  | cons next rest ih =>
    rw [selectedOutcome, List.append_cons]
    apply ih
    obtain ⟨before, after, seen_eq, smaller, no_greater⟩ := first
    cases outranked : best.below next with
    | true =>
      refine ⟨seen, [], rfl, fun outcome member => ?_, fun _ none => absurd none List.not_mem_nil⟩
      rw [if_pos rfl, GuardrailOutcome.below_iff]
      rw [GuardrailOutcome.below_iff] at outranked
      rw [seen_eq, List.mem_append, List.mem_cons] at member
      rcases member with early | rfl | late
      · have := (GuardrailOutcome.below_iff _ _).mp (smaller outcome early)
        omega
      · exact outranked
      · have := (GuardrailOutcome.not_below_iff _ _).mp (no_greater outcome late)
        omega
    | false =>
      refine ⟨before, after ++ [next], by simp [seen_eq], smaller, fun outcome member => ?_⟩
      rw [List.mem_append, List.mem_singleton] at member
      rcases member with late | rfl
      · exact no_greater outcome late
      · exact outranked

theorem FirstGreatest.mem {outcomes : List GuardrailOutcome} {chosen : GuardrailOutcome}
    (first : FirstGreatest outcomes chosen) : chosen ∈ outcomes := by
  obtain ⟨before, after, rfl, -⟩ := first
  exact List.mem_append_right before List.mem_cons_self

theorem FirstGreatest.rank_le {outcomes : List GuardrailOutcome} {chosen : GuardrailOutcome}
    (first : FirstGreatest outcomes chosen) : ∀ outcome ∈ outcomes, outcome.rank ≤ chosen.rank := by
  obtain ⟨before, after, rfl, smaller, no_greater⟩ := first
  intro outcome member
  rw [List.mem_append, List.mem_cons] at member
  rcases member with early | rfl | late
  · exact ((GuardrailOutcome.below_iff _ _).mp (smaller outcome early)).le
  · exact le_rfl
  · exact (GuardrailOutcome.not_below_iff _ _).mp (no_greater outcome late)

theorem FirstGreatest.reordered {outcomes others : List GuardrailOutcome}
    {chosen other : GuardrailOutcome} (perm : others.Perm outcomes)
    (first : FirstGreatest outcomes chosen) (second : FirstGreatest others other) :
    other.action = chosen.action ∧ other.severity = chosen.severity := by
  apply GuardrailOutcome.rank_inj
  apply le_antisymm
  · exact first.rank_le other (perm.mem_iff.mp second.mem)
  · exact second.rank_le chosen (perm.mem_iff.mpr first.mem)

theorem outcomesOf_perm {matchedRules others : List GuardrailRule}
    {findings otherFindings : List GuardrailDetectorFinding} (rules : others.Perm matchedRules)
    (found : otherFindings.Perm findings) :
    (outcomesOf others otherFindings).Perm (outcomesOf matchedRules findings) :=
  (rules.map _).append (found.map _)

theorem ruleRedactions_perm {rules others : List GuardrailRule} (perm : rules.Perm others)
    {own : List GuardrailRedaction} (listed : ruleRedactions rules = .ok own) :
    ∃ own', ruleRedactions others = .ok own' ∧ own.Perm own' := by
  induction perm generalizing own with
  | nil => exact ⟨own, listed, List.Perm.refl own⟩
  | cons rule _ ih =>
    rw [ruleRedactions] at listed
    obtain ⟨first, terms, listed⟩ := except_bind_ok.mp listed
    obtain ⟨rest, tail, same⟩ := except_bind_ok.mp listed
    cases same
    obtain ⟨rest', listed', together⟩ := ih tail
    refine ⟨first ++ rest', ?_, together.append_left first⟩
    rw [ruleRedactions, terms, listed']
    rfl
  | swap a b rest =>
    rw [ruleRedactions] at listed
    obtain ⟨second, terms_b, listed⟩ := except_bind_ok.mp listed
    obtain ⟨both, pair, same⟩ := except_bind_ok.mp listed
    cases same
    rw [ruleRedactions] at pair
    obtain ⟨first, terms_a, pair⟩ := except_bind_ok.mp pair
    obtain ⟨others, tail, same⟩ := except_bind_ok.mp pair
    cases same
    refine ⟨first ++ (second ++ others), ?_, ?_⟩
    · rw [ruleRedactions, ruleRedactions, terms_a, terms_b, tail]
      rfl
    · rw [← List.append_assoc, ← List.append_assoc]
      exact List.perm_append_comm.append_right others
  | trans _ _ ih ih' =>
    obtain ⟨between, listed, one⟩ := ih listed
    obtain ⟨last, listed, two⟩ := ih' listed
    exact ⟨last, listed, one.trans two⟩

section Reordered

open InMemoryGuardrailService

structure GuardrailDecision.Reordered (a b : GuardrailDecision) : Prop where
  action : a.action = b.action
  severity : a.severity = b.severity
  allowed : a.allowed = b.allowed
  approvalRequired : a.approvalRequired = b.approvalRequired
  blocked : a.blocked = b.blocked
  auditRequired : a.auditRequired = b.auditRequired
  redacts : a.redactedContent.isSome = b.redactedContent.isSome
  redactions : a.redactions.Perm b.redactions
  warnings : a.warnings.Perm b.warnings
  matchedRuleIds : a.matchedRuleIds.Perm b.matchedRuleIds
  detectorFindingIds : a.detectorFindingIds.Perm b.detectorFindingIds
  detectorFindings : a.detectorFindings.Perm b.detectorFindings

variable {texts : TextRules} {request : GuardrailEvaluationRequest}
  {matchedRules others : List GuardrailRule}
  {findings otherFindings : List GuardrailDetectorFinding}

theorem decisionOf_ok : (∃ decision,
      decisionOf texts request matchedRules findings = .ok decision) ↔
    ∃ own, ruleRedactions matchedRules = .ok own ∧
      WellFormed texts (own ++ findingRedactions findings) := by
  constructor
  · rintro ⟨decision, decided⟩
    obtain ⟨own, listed, -⟩ := (decisionOf_decides decided).redactions
    refine ⟨own, listed, ?_⟩
    unfold decisionOf at decided
    cases outcomes : outcomesOf matchedRules findings with
    | nil =>
      rw [redactions_nil findings listed (by simp [outcomes])]
      exact fun _ none => absurd none List.not_mem_nil
    | cons first rest =>
      rw [outcomes] at decided
      obtain ⟨content, redacted, -⟩ := except_bind_ok.mp decided
      exact (redactedContent_ok request.content listed).mp ⟨content, redacted⟩
  · rintro ⟨own, listed, formed⟩
    obtain ⟨content, redacted⟩ := (redactedContent_ok request.content listed).mpr formed
    unfold decisionOf
    cases outcomesOf matchedRules findings with
    | nil => exact ⟨_, rfl⟩
    | cons first rest =>
      dsimp only
      rw [redacted, listed]
      exact ⟨_, rfl⟩

theorem decisionOf_ok_perm (rules : others.Perm matchedRules)
    (found : otherFindings.Perm findings)
    (decided : ∃ decision, decisionOf texts request matchedRules findings = .ok decision) :
    ∃ decision, decisionOf texts request others otherFindings = .ok decision := by
  obtain ⟨own, listed, formed⟩ := decisionOf_ok.mp decided
  obtain ⟨own', listed', together⟩ := ruleRedactions_perm rules.symm listed
  refine decisionOf_ok.mpr ⟨own', listed', fun redaction member => formed redaction ?_⟩
  have all : (own' ++ findingRedactions otherFindings).Perm (own ++ findingRedactions findings) :=
    together.symm.append (found.flatMap_right _)
  exact all.mem_iff.mp member

structure GuardrailDecision.Lists (decision : GuardrailDecision)
    (matchedRules : List GuardrailRule) (findings : List GuardrailDetectorFinding) : Prop where
  chosen : ∃ outcome, FirstGreatest (outcomesOf matchedRules findings) outcome ∧
    decision.action = outcome.action ∧ decision.severity = some outcome.severity ∧
    decision.message = some outcome.message
  allowed : decision.allowed = !decision.action.blocks
  redacts : decision.redactedContent.isSome =
    (matchedRules.any (fun rule => rule.action = .redact) ||
      findings.any fun finding => finding.action = .redact)
  warnings : decision.warnings =
    ((matchedRules.filter fun rule => rule.action = .warn).map GuardrailRule.message) ++
      (findings.filter fun finding => finding.action = .warn).map GuardrailDetectorFinding.message
  detectorFindings : decision.detectorFindings = findings
  auditRequired : decision.auditRequired = (matchedRules.any GuardrailRule.auditRequired ||
    findings.any GuardrailDetectorFinding.auditRequired)

theorem redactedContent_isSome {content : String} {redacted : Option String}
    (done : redactedContent texts content matchedRules findings = .ok redacted) :
    redacted.isSome = (matchedRules.any (fun rule => rule.action = .redact) ||
      findings.any fun finding => finding.action = .redact) := by
  unfold redactedContent at done
  obtain ⟨first, -, done⟩ := except_bind_ok.mp done
  obtain ⟨second, -, done⟩ := except_bind_ok.mp done
  rw [← Except.ok.inj done]
  cases matchedRules.any (fun rule => rule.action = .redact) ||
    findings.any fun finding => finding.action = .redact <;> rfl

theorem decisionOf_lists {decision : GuardrailDecision}
    (decided : decisionOf texts request matchedRules findings = .ok decision)
    (some_outcome : outcomesOf matchedRules findings ≠ []) :
    decision.Lists matchedRules findings := by
  unfold decisionOf at decided
  cases outcomes : outcomesOf matchedRules findings with
  | nil => exact absurd outcomes some_outcome
  | cons first rest =>
    rw [outcomes] at decided
    dsimp only at decided
    obtain ⟨content, redacted, decided⟩ := except_bind_ok.mp decided
    obtain ⟨own, -, decided⟩ := except_bind_ok.mp decided
    cases decided
    refine ⟨⟨selectedOutcome first rest, ?_, rfl, rfl, rfl⟩, rfl, redactedContent_isSome redacted,
      rfl, rfl, rfl⟩
    rw [outcomes]
    refine selectedOutcome_first [first] rest first ⟨[], [], rfl, ?_, ?_⟩ <;>
      exact fun _ none => absurd none List.not_mem_nil

theorem any_perm {α : Type} {xs ys : List α} (perm : xs.Perm ys) (p : α → Bool) :
    xs.any p = ys.any p := by
  rw [Bool.eq_iff_iff, List.any_eq_true, List.any_eq_true]
  simp only [perm.mem_iff]

theorem decisions_reordered {first second : GuardrailDecision}
    (rules : others.Perm matchedRules) (found : otherFindings.Perm findings)
    (decided : decisionOf texts request matchedRules findings = .ok first)
    (decided' : decisionOf texts request others otherFindings = .ok second) :
    second.Reordered first := by
  have outcomes := outcomesOf_perm rules found
  have decides := decisionOf_decides decided
  have decides' := decisionOf_decides decided'
  obtain ⟨own, listed, redactions⟩ := decides.redactions
  obtain ⟨own', listed', redactions'⟩ := decides'.redactions
  have together : second.redactions.Perm first.redactions := by
    obtain ⟨again, relisted, perm⟩ := ruleRedactions_perm rules.symm listed
    rw [listed'] at relisted
    cases relisted
    rw [redactions, redactions']
    exact perm.symm.append (found.flatMap_right _)
  by_cases none : outcomesOf matchedRules findings = []
  · have none' : outcomesOf others otherFindings = [] := by
      rw [none] at outcomes
      exact outcomes.eq_nil
    unfold decisionOf at decided decided'
    rw [none] at decided
    rw [none'] at decided'
    cases decided
    cases decided'
    constructor <;> rfl
  have lists := decisionOf_lists decided none
  have lists' := decisionOf_lists decided' fun none' => none (by
    rw [none'] at outcomes
    exact outcomes.symm.eq_nil)
  obtain ⟨chosen, greatest, action, severity, -⟩ := lists.chosen
  obtain ⟨chosen', greatest', action', severity', -⟩ := lists'.chosen
  obtain ⟨same_action, same_severity⟩ := greatest.reordered outcomes greatest'
  have actions : second.action = first.action := by rw [action, action', same_action]
  refine ⟨actions, ?_, ?_, ?_, ?_, ?_, ?_, together, ?_, ?_, ?_, ?_⟩
  · rw [severity, severity', same_severity]
  · rw [lists.allowed, lists'.allowed, actions]
  · rw [decides.approvalRequired, decides'.approvalRequired, actions]
  · rw [decides.blocked, decides'.blocked, actions]
  · rw [lists.auditRequired, lists'.auditRequired, any_perm rules, any_perm found]
  · rw [lists.redacts, lists'.redacts, any_perm rules, any_perm found]
  · rw [lists.warnings, lists'.warnings]
    exact ((rules.filter _).map _).append ((found.filter _).map _)
  · rw [decides.matchedRuleIds, decides'.matchedRuleIds]
    exact rules.map _
  · rw [decides.detectorFindingIds, decides'.detectorFindingIds]
    exact found.map _
  · rw [lists.detectorFindings, lists'.detectorFindings]
    exact found

theorem GuardrailDecision.Decides.blocked_iff {decision : GuardrailDecision}
    (decides : decision.Decides matchedRules findings) :
    decision.blocked = true ↔
      ∃ outcome ∈ outcomesOf matchedRules findings, outcome.action.blocks = true := by
  constructor
  · intro blocked
    rw [decides.blocked] at blocked
    rcases decides.chosen with allow | ⟨outcome, member, same⟩
    · rw [allow] at blocked
      cases blocked
    · exact ⟨outcome, member, same ▸ blocked⟩
  · rintro ⟨outcome, member, blocks⟩
    by_contra blocked
    have := decides.unblocked (Bool.not_eq_true _ ▸ blocked) outcome member
    rw [blocks] at this
    cases this

/-- Both evaluations raise, or both decide, and differ in nothing but the order. -/
def SameAnswer : Except GuardrailError GuardrailDecision →
    Except GuardrailError GuardrailDecision → Prop
  | .ok a, .ok b => a.Reordered b
  | .error _, .error _ => True
  | _, _ => False

theorem decisionOf_sameAnswer (rules : others.Perm matchedRules)
    (found : otherFindings.Perm findings) :
    SameAnswer (decisionOf texts request others otherFindings)
      (decisionOf texts request matchedRules findings) := by
  cases decided : decisionOf texts request matchedRules findings with
  | ok first =>
    obtain ⟨second, decided'⟩ :=
      decisionOf_ok_perm rules found ⟨first, decided⟩
    rw [decided']
    exact decisions_reordered rules found decided decided'
  | error e =>
    cases decided' : decisionOf texts request others otherFindings with
    | error e' => trivial
    | ok second =>
      obtain ⟨first, decides⟩ := decisionOf_ok_perm rules.symm found.symm ⟨second, decided'⟩
      rw [decided] at decides
      cases decides

end Reordered

namespace InMemoryGuardrailService

variable {texts : TextRules} {request : GuardrailEvaluationRequest}

theorem evaluate_eq {service : InMemoryGuardrailService}
    {findings : List GuardrailDetectorFinding}
    (found : findingsOf request service.detectors = .ok findings) :
    service.evaluate texts request =
      decisionOf texts request (service.matchedRules texts request) findings := by
  unfold evaluate
  rw [found]
  rfl

/-- The decision is the first of the greatest outcomes, blocks as soon as one outcome blocks,
and another order of the rules and the findings changes only what is listed and who speaks. -/
theorem evaluate_greatest {service reordered : InMemoryGuardrailService}
    {findings others : List GuardrailDetectorFinding}
    (found : findingsOf request service.detectors = .ok findings)
    (found' : findingsOf request reordered.detectors = .ok others)
    (rules : reordered.rules.Perm service.rules) (perm : others.Perm findings) :
    (∀ decision, service.evaluate texts request = .ok decision →
      (outcomesOf (service.matchedRules texts request) findings ≠ [] →
        ∃ outcome, FirstGreatest (outcomesOf (service.matchedRules texts request) findings) outcome ∧
          decision.action = outcome.action ∧ decision.severity = some outcome.severity ∧
          decision.message = some outcome.message) ∧
      (decision.blocked = true ↔
        ∃ outcome ∈ outcomesOf (service.matchedRules texts request) findings,
          outcome.action = .block ∨ outcome.action = .quarantineRun)) ∧
    SameAnswer (reordered.evaluate texts request) (service.evaluate texts request) := by
  rw [evaluate_eq found, evaluate_eq found']
  refine ⟨fun decision decided => ⟨fun some_outcome => (decisionOf_lists decided some_outcome).chosen,
    ?_⟩, decisionOf_sameAnswer (rules.filter _) perm⟩
  rw [(decisionOf_decides decided).blocked_iff]
  simp only [GuardrailAction.blocks, Bool.or_eq_true, decide_eq_true_eq]

end InMemoryGuardrailService

section Order

def plainRules : TextRules where
  lower := id
  alike a b := decide (a = b)
  template replacement := .ok fun _ => replacement.toList

def inputRule (id : String) (action : GuardrailAction) (severity : GuardrailSeverity)
    (message : String) : GuardrailRule where
  id := id
  stage := .input
  condition := {}
  action := action
  severity := severity
  message := message

def watched : GuardrailRule := inputRule "watched" .warn .critical "Watched."

def refused : GuardrailRule := inputRule "refused" .block .low "Refused."

def forbidden : GuardrailRule := inputRule "forbidden" .block .low "Forbidden."

def question : GuardrailEvaluationRequest := ⟨"tenant", none, .input, "", []⟩

def refusedFirst : InMemoryGuardrailService := ⟨[watched, refused, forbidden], []⟩

def forbiddenFirst : InMemoryGuardrailService := ⟨[watched, forbidden, refused], []⟩

theorem evaluate_greatest_reordered :
    SameAnswer (forbiddenFirst.evaluate plainRules question)
      (refusedFirst.evaluate plainRules question) := by
  have found : InMemoryGuardrailService.findingsOf question refusedFirst.detectors = .ok [] := rfl
  have found' : InMemoryGuardrailService.findingsOf question forbiddenFirst.detectors = .ok [] := rfl
  have rules : forbiddenFirst.rules.Perm refusedFirst.rules := (List.Perm.swap _ _ _).cons watched
  exact (InMemoryGuardrailService.evaluate_greatest found found' rules (List.Perm.refl [])).2

/-- The other order answers with the other message, and the severity of the decision is not the
greatest one of the outcomes. -/
theorem other_order_other_decision : ∃ first second : GuardrailDecision,
    refusedFirst.evaluate plainRules question = .ok first ∧
    forbiddenFirst.evaluate plainRules question = .ok second ∧
    first ≠ second ∧ first.severity = some .low ∧ watched.severity = .critical := by
  refine ⟨_, _, rfl, rfl, fun same => ?_, rfl, rfl⟩
  have messages := congrArg GuardrailDecision.message same
  revert messages
  decide

end Order

end Taroai.Governance
