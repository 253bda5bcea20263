import Taroai.Lib.Json
import Taroai.Lib.Substitute

/-! The guardrail service of `guardrails/service.py` and the records of `guardrails/models.py`.
What Python's Unicode tables and the template syntax of `re.sub` decide is a parameter, and so
is each detector, which answers with findings or raises. -/

namespace Taroai.Governance

open Json

inductive GuardrailStage where
  | input
  | retrieval
  | modelRequest
  | modelResponse
  | toolRequest
  | toolResponse
  | artifact
  | memoryWrite
deriving DecidableEq, Repr

inductive GuardrailAction where
  | allow
  | warn
  | redact
  | requireApproval
  | block
  | quarantineRun
deriving DecidableEq, Repr

inductive GuardrailSeverity where
  | low
  | medium
  | high
  | critical
deriving DecidableEq, Repr

def GuardrailStage.value : GuardrailStage → String
  | .input => "input"
  | .retrieval => "retrieval"
  | .modelRequest => "model_request"
  | .modelResponse => "model_response"
  | .toolRequest => "tool_request"
  | .toolResponse => "tool_response"
  | .artifact => "artifact"
  | .memoryWrite => "memory_write"

def GuardrailAction.value : GuardrailAction → String
  | .allow => "allow"
  | .warn => "warn"
  | .redact => "redact"
  | .requireApproval => "require_approval"
  | .block => "block"
  | .quarantineRun => "quarantine_run"

/-- `ACTION_PRIORITY`. -/
def GuardrailAction.priority : GuardrailAction → Nat
  | .allow => 0
  | .warn => 1
  | .redact => 2
  | .requireApproval => 3
  | .block => 4
  | .quarantineRun => 5

/-- `SEVERITY_PRIORITY`. -/
def GuardrailSeverity.priority : GuardrailSeverity → Nat
  | .low => 0
  | .medium => 1
  | .high => 2
  | .critical => 3

/-- The actions of which a decision is `blocked`. -/
def GuardrailAction.blocks (action : GuardrailAction) : Bool :=
  decide (action = .block) || decide (action = .quarantineRun)

inductive GuardrailError where
  | pattern
  | validation
  | detector
deriving DecidableEq, Repr

/-- `str.lower`, the letters that `re.IGNORECASE` takes for one, and what a replacement puts
in the place of a match. -/
structure TextRules where
  lower : String → String
  alike : Char → Char → Bool
  template : String → Except GuardrailError (List Char → List Char)

/-- `re.sub(re.escape(term), replacement, text, flags=flags)`. -/
def TextRules.sub (rules : TextRules) (caseSensitive : Bool) (term replacement text : String) :
    Except GuardrailError String := do
  let put ← rules.template replacement
  let alike := if caseSensitive then fun a b => decide (a = b) else rules.alike
  return String.ofList (Substitute.substitute alike term.toList put text.toList)

structure GuardrailCondition where
  textContains : List String := []
  attributeEquals : Items := []
  caseSensitive : Bool := false

namespace GuardrailCondition

variable (rules : TextRules)

def containsAnyText (condition : GuardrailCondition) (content : String) : Bool :=
  if condition.caseSensitive then condition.textContains.any fun term => includes content term
  else condition.textContains.any fun term => includes (rules.lower content) (rules.lower term)

def matches? (condition : GuardrailCondition) (content : String) (attributes : Items) : Bool :=
  (condition.textContains.isEmpty || condition.containsAnyText rules content) &&
    condition.attributeEquals.all fun (key, expected) =>
      ((attributes.get? key).getD .null).same expected

def redactTerms (caseSensitive : Bool) (replacement : String) :
    List String → String → Except GuardrailError String
  | [], content => .ok content
  | term :: rest, content => do
    redactTerms caseSensitive replacement rest (← rules.sub caseSensitive term replacement content)

def redact (condition : GuardrailCondition) (content replacement : String) :
    Except GuardrailError String :=
  redactTerms rules condition.caseSensitive replacement condition.textContains content

end GuardrailCondition

structure GuardrailRule where
  id : String
  tenantId : Option String := none
  workspaceId : Option String := none
  stage : GuardrailStage
  condition : GuardrailCondition
  action : GuardrailAction
  severity : GuardrailSeverity := .medium
  message : String
  auditRequired : Bool := true
  redactionReplacement : String := "[REDACTED]"

structure GuardrailEvaluationRequest where
  tenantId : String
  workspaceId : Option String
  stage : GuardrailStage
  content : String
  attributes : Items

structure GuardrailRedaction where
  text : String
  replacement : String
  caseSensitive : Bool
  text_nonempty : text ≠ ""

structure GuardrailDetectorFinding where
  id : String
  detectorId : String
  label : String
  action : GuardrailAction
  severity : GuardrailSeverity := .high
  message : String
  auditRequired : Bool := true
  redactions : List GuardrailRedaction := []

structure GuardrailDecision where
  action : GuardrailAction
  allowed : Bool
  approvalRequired : Bool := false
  blocked : Bool := false
  redactedContent : Option String := none
  redactions : List GuardrailRedaction := []
  warnings : List String := []
  matchedRuleIds : List String := []
  detectorFindingIds : List String := []
  detectorFindings : List GuardrailDetectorFinding := []
  severity : Option GuardrailSeverity := none
  message : Option String := none
  auditRequired : Bool := false

def GuardrailDecision.allow : GuardrailDecision := { action := .allow, allowed := true }

structure GuardrailOutcome where
  action : GuardrailAction
  severity : GuardrailSeverity
  message : String

def GuardrailOutcome.below (a b : GuardrailOutcome) : Bool :=
  decide (a.action.priority < b.action.priority) ||
    decide (a.action.priority = b.action.priority) &&
      decide (a.severity.priority < b.severity.priority)

/-- `max(outcomes, key=...)`: the first one of the greatest key. -/
def selectedOutcome : GuardrailOutcome → List GuardrailOutcome → GuardrailOutcome
  | best, [] => best
  | best, outcome :: rest => selectedOutcome (if best.below outcome then outcome else best) rest

def outcomesOf (matchedRules : List GuardrailRule) (findings : List GuardrailDetectorFinding) :
    List GuardrailOutcome :=
  (matchedRules.map fun rule => ⟨rule.action, rule.severity, rule.message⟩) ++
    findings.map fun finding => ⟨finding.action, finding.severity, finding.message⟩

section Redactions

variable (rules : TextRules)

/-- `_apply_redactions`. -/
def applyRedactions : List GuardrailRedaction → String → Except GuardrailError String
  | [], content => .ok content
  | redaction :: rest, content => do
    applyRedactions rest
      (← rules.sub redaction.caseSensitive redaction.text redaction.replacement content)

def termRedactions (caseSensitive : Bool) (replacement : String) :
    List String → Except GuardrailError (List GuardrailRedaction)
  | [] => .ok []
  | term :: rest =>
    if nonempty : term ≠ "" then do
      let others ← termRedactions caseSensitive replacement rest
      return ⟨term, replacement, caseSensitive, nonempty⟩ :: others
    else .error .validation

def ownRedactions (rule : GuardrailRule) : Except GuardrailError (List GuardrailRedaction) :=
  if rule.action = .redact then
    termRedactions rule.condition.caseSensitive rule.redactionReplacement
      rule.condition.textContains
  else .ok []

def ruleRedactions : List GuardrailRule → Except GuardrailError (List GuardrailRedaction)
  | [] => .ok []
  | rule :: rest => do
    let own ← ownRedactions rule
    let others ← ruleRedactions rest
    return own ++ others

def findingRedactions (findings : List GuardrailDetectorFinding) : List GuardrailRedaction :=
  findings.flatMap fun finding => if finding.action = .redact then finding.redactions else []

def redactedByRules : List GuardrailRule → String → Except GuardrailError String
  | [], content => .ok content
  | rule :: rest, content =>
    if rule.action = .redact then do
      redactedByRules rest (← rule.condition.redact rules content rule.redactionReplacement)
    else redactedByRules rest content

/-- `_redacted_content`. -/
def redactedContent (content : String) (matchedRules : List GuardrailRule)
    (findings : List GuardrailDetectorFinding) : Except GuardrailError (Option String) := do
  let redacted ← redactedByRules rules matchedRules content
  let redacted ← applyRedactions rules (findingRedactions findings) redacted
  let changed := matchedRules.any (fun rule => rule.action = .redact) ||
    findings.any fun finding => finding.action = .redact
  return if changed then some redacted else none

end Redactions

abbrev GuardrailDetector :=
  GuardrailEvaluationRequest → Except GuardrailError (List GuardrailDetectorFinding)

structure InMemoryGuardrailService where
  rules : List GuardrailRule
  detectors : List GuardrailDetector

namespace InMemoryGuardrailService

def addRule (service : InMemoryGuardrailService) (rule : GuardrailRule) :
    InMemoryGuardrailService :=
  { service with rules := service.rules ++ [rule] }

variable (texts : TextRules)

def matchesRule (request : GuardrailEvaluationRequest) (rule : GuardrailRule) : Bool :=
  (rule.tenantId.all fun tenantId => tenantId = request.tenantId) &&
    (rule.workspaceId.all fun workspaceId => some workspaceId = request.workspaceId) &&
    decide (rule.stage = request.stage) &&
    rule.condition.matches? texts request.content request.attributes

def findingsOf (request : GuardrailEvaluationRequest) :
    List GuardrailDetector → Except GuardrailError (List GuardrailDetectorFinding)
  | [] => .ok []
  | detector :: rest => do
    let found ← detector request
    let others ← findingsOf request rest
    return found ++ others

def decisionOf (request : GuardrailEvaluationRequest) (matchedRules : List GuardrailRule)
    (findings : List GuardrailDetectorFinding) : Except GuardrailError GuardrailDecision :=
  match outcomesOf matchedRules findings with
  | [] => .ok .allow
  | first :: others => do
    let selected := selectedOutcome first others
    let redacted ← redactedContent texts request.content matchedRules findings
    let ruleTexts ← ruleRedactions matchedRules
    return {
      action := selected.action
      allowed := !selected.action.blocks
      approvalRequired := decide (selected.action = .requireApproval)
      blocked := selected.action.blocks
      redactedContent := redacted
      redactions := ruleTexts ++ findingRedactions findings
      warnings :=
        ((matchedRules.filter fun rule => rule.action = .warn).map GuardrailRule.message) ++
          (findings.filter fun finding => finding.action = .warn).map GuardrailDetectorFinding.message
      matchedRuleIds := matchedRules.map GuardrailRule.id
      detectorFindingIds := findings.map GuardrailDetectorFinding.id
      detectorFindings := findings
      severity := some selected.severity
      message := some selected.message
      auditRequired := matchedRules.any GuardrailRule.auditRequired ||
        findings.any GuardrailDetectorFinding.auditRequired }

def matchedRules (service : InMemoryGuardrailService) (request : GuardrailEvaluationRequest) :
    List GuardrailRule :=
  service.rules.filter fun rule => matchesRule texts request rule

def evaluate (service : InMemoryGuardrailService) (request : GuardrailEvaluationRequest) :
    Except GuardrailError GuardrailDecision := do
  let findings ← findingsOf request service.detectors
  decisionOf texts request (service.matchedRules texts request) findings

end InMemoryGuardrailService

section Selection

theorem selectedOutcome_mem (best : GuardrailOutcome) (rest : List GuardrailOutcome) :
    selectedOutcome best rest ∈ best :: rest := by
  induction rest generalizing best with
  | nil => exact List.mem_singleton_self best
  | cons outcome rest ih =>
    rw [selectedOutcome]
    have chosen := ih (if best.below outcome then outcome else best)
    rcases List.mem_cons.mp chosen with same | later
    · rw [same]
      split <;> simp
    · exact List.mem_cons_of_mem _ (List.mem_cons_of_mem _ later)

theorem selectedOutcome_priority (best : GuardrailOutcome) (rest : List GuardrailOutcome) :
    ∀ outcome ∈ best :: rest,
      outcome.action.priority ≤ (selectedOutcome best rest).action.priority := by
  induction rest generalizing best with
  | nil =>
    intro outcome member
    rw [List.mem_singleton.mp member]
    exact le_rfl
  | cons next rest ih =>
    intro outcome member
    rw [selectedOutcome]
    have kept := ih (if best.below next then next else best) _ List.mem_cons_self
    have not_less : best.action.priority ≤ (if best.below next then next else best).action.priority ∧
        next.action.priority ≤ (if best.below next then next else best).action.priority := by
      cases below : best.below next with
      | true =>
        simp only [if_true]
        unfold GuardrailOutcome.below at below
        simp only [Bool.or_eq_true, Bool.and_eq_true, decide_eq_true_eq] at below
        omega
      | false =>
        simp only [Bool.false_eq_true, if_false]
        unfold GuardrailOutcome.below at below
        simp only [Bool.or_eq_false_iff, decide_eq_false_iff_not] at below
        omega
    rcases List.mem_cons.mp member with rfl | member
    · omega
    rcases List.mem_cons.mp member with rfl | member
    · omega
    · exact ih _ outcome (List.mem_cons_of_mem _ member)

theorem GuardrailAction.priority_inj {a b : GuardrailAction} (same : a.priority = b.priority) :
    a = b := by
  cases a <;> cases b <;> first | rfl | cases same

theorem GuardrailAction.blocks_iff (action : GuardrailAction) :
    action.blocks = true ↔ GuardrailAction.requireApproval.priority < action.priority := by
  cases action <;> decide

structure GuardrailDecision.Decides (decision : GuardrailDecision)
    (matchedRules : List GuardrailRule) (findings : List GuardrailDetectorFinding) : Prop where
  blocked : decision.blocked = decision.action.blocks
  approvalRequired : decision.approvalRequired = decide (decision.action = .requireApproval)
  greatest : ∀ outcome ∈ outcomesOf matchedRules findings,
    outcome.action.priority ≤ decision.action.priority
  chosen : decision.action = .allow ∨
    ∃ outcome ∈ outcomesOf matchedRules findings, outcome.action = decision.action
  redactions : ∃ own, ruleRedactions matchedRules = .ok own ∧
    decision.redactions = own ++ findingRedactions findings
  matchedRuleIds : decision.matchedRuleIds = matchedRules.map GuardrailRule.id
  detectorFindingIds : decision.detectorFindingIds = findings.map GuardrailDetectorFinding.id

theorem decisionOf_decides {texts : TextRules} {request : GuardrailEvaluationRequest}
    {matchedRules : List GuardrailRule} {findings : List GuardrailDetectorFinding}
    {decision : GuardrailDecision}
    (decided : InMemoryGuardrailService.decisionOf texts request matchedRules findings =
      .ok decision) : decision.Decides matchedRules findings := by
  unfold InMemoryGuardrailService.decisionOf at decided
  cases listed : outcomesOf matchedRules findings with
  | nil =>
    rw [listed] at decided
    cases decided
    obtain ⟨no_rules, no_findings⟩ := List.append_eq_nil_iff.mp listed
    rw [List.map_eq_nil_iff] at no_rules no_findings
    subst no_rules no_findings
    exact ⟨rfl, rfl, by simp [listed], .inl rfl, ⟨[], rfl, rfl⟩, rfl, rfl⟩
  | cons first others =>
    rw [listed] at decided
    dsimp only at decided
    obtain ⟨content, -, decided⟩ := except_bind_ok.mp decided
    obtain ⟨own, redacts, decided⟩ := except_bind_ok.mp decided
    cases decided
    refine ⟨rfl, rfl, ?_, .inr ⟨_, ?_, rfl⟩, ⟨own, redacts, rfl⟩, rfl, rfl⟩
    · rw [listed]
      exact selectedOutcome_priority first others
    · rw [listed]
      exact selectedOutcome_mem first others

variable {decision : GuardrailDecision} {matchedRules : List GuardrailRule}
  {findings : List GuardrailDetectorFinding}

theorem GuardrailDecision.Decides.unblocked (decides : decision.Decides matchedRules findings)
    (open_ : decision.blocked = false) :
    ∀ outcome ∈ outcomesOf matchedRules findings, outcome.action.blocks = false := by
  intro outcome member
  rw [decides.blocked] at open_
  have below := decides.greatest outcome member
  by_contra blocks
  rw [Bool.not_eq_false, GuardrailAction.blocks_iff] at blocks
  have : decision.action.blocks = true := (GuardrailAction.blocks_iff _).mpr (by omega)
  rw [open_] at this
  cases this

theorem GuardrailDecision.Decides.approval (decides : decision.Decides matchedRules findings)
    (open_ : decision.blocked = false) {outcome : GuardrailOutcome}
    (member : outcome ∈ outcomesOf matchedRules findings)
    (wants : outcome.action = .requireApproval) : decision.approvalRequired = true := by
  have below := decides.greatest outcome member
  rw [wants] at below
  rw [decides.blocked] at open_
  have above : ¬GuardrailAction.requireApproval.priority < decision.action.priority := by
    rw [← GuardrailAction.blocks_iff, open_]
    exact Bool.false_ne_true
  rw [decides.approvalRequired, decide_eq_true_iff]
  exact GuardrailAction.priority_inj (by omega)

end Selection

end Taroai.Governance
