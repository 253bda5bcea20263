import Mathlib
import Taroai.Governance.RuleGrowth

/-! What the approval of a guardrail decision covers. A run keeps of it only a key: the stage with
the ids of the matched rules or, where no rule matched, of the findings. -/

namespace Taroai.Governance

open InMemoryGuardrailService

theorem stage_free (stage : GuardrailStage) : ':' ∉ stage.value.toList := by
  cases stage <;> decide

theorem GuardrailStage.value_inj {a b : GuardrailStage} (same : a.value = b.value) : a = b := by
  cases a <;> cases b <;> first | rfl | exact absurd same (by decide)

theorem key_inj {stage stage' : GuardrailStage} {s t : String} :
    stage.value ++ ":" ++ s = stage'.value ++ ":" ++ t ↔ stage = stage' ∧ s = t := by
  constructor
  · intro same
    have cut := cutAt_char (stage_free stage) s.toList
    have chars := congrArg String.toList same
    simp only [String.toList_append, List.append_assoc] at chars
    change stage.value.toList ++ ':' :: s.toList = stage'.value.toList ++ ':' :: t.toList at chars
    rw [chars, cutAt_char (stage_free stage')] at cut
    obtain ⟨stages, texts⟩ := Prod.mk.inj (Option.some.inj cut)
    exact ⟨GuardrailStage.value_inj (String.toList_inj.mp stages).symm,
      (String.toList_inj.mp texts).symm⟩
  · rintro ⟨rfl, rfl⟩
    rfl

/-- What the checks of model requests, model responses and artifacts share: each has a stage and
two reasons of its own, and redacts where this one lets a decision pass. -/
def checkDecision (stage : GuardrailStage) (blockedReason reason : String)
    (decision : GuardrailDecision) (approvedGuardrailKeys : List String) :
    Except GuardrailRefusal Unit :=
  if decision.blocked then .error (.violation blockedReason)
  else if decision.approvalRequired then
    let guardrailKey := guardrailApprovalKey stage decision.matchedRuleIds
      decision.detectorFindingIds decision.action
    if guardrailKey ∈ approvedGuardrailKeys then .ok ()
    else .error (.approvalRequired guardrailKey (ToolGateway.messageOr decision.message reason))
  else .ok ()

def checkModelRequest : GuardrailDecision → List String → Except GuardrailRefusal Unit :=
  checkDecision .modelRequest "model_guardrail_blocked" "Model request requires guardrail approval"

def checkModelResponse : GuardrailDecision → List String → Except GuardrailRefusal Unit :=
  checkDecision .modelResponse "model_guardrail_blocked" "Model response requires guardrail approval"

def checkArtifact : GuardrailDecision → List String → Except GuardrailRefusal Unit :=
  checkDecision .artifact "artifact_guardrail_blocked"
    "Artifact publication requires guardrail approval"

theorem checkModelRequest_eq_error {texts : TextRules} {request : ModelRequest}
    {decision : GuardrailDecision} {keys : List String} {refusal : GuardrailRefusal}
    (guarded : ∀ e, refusal ≠ .raised e) :
    applyModelGuardrailDecisionToRequest texts request decision keys = .error refusal ↔
      checkModelRequest decision keys = .error refusal := by
  unfold applyModelGuardrailDecisionToRequest checkModelRequest checkDecision
  split
  · simp
  · split
    · dsimp only
      split <;> simp
    · split
      · cases redactModelRequest texts decision.redactions request with
        | ok => simp [Except.mapError]
        | error e => simpa [Except.mapError] using (guarded e).symm
      · simp

/-- `resume_after_approval` keeps the key that the pause had left. -/
def approveKey (approvedGuardrailKeys : List String) (pending : String) : List String :=
  if pending ∈ approvedGuardrailKeys then approvedGuardrailKeys
  else approvedGuardrailKeys ++ [pending]

theorem mem_approveKey {keys : List String} {key pending : String} :
    key ∈ approveKey keys pending ↔ key ∈ keys ∨ key = pending := by
  unfold approveKey
  split
  · next known => exact (or_iff_left_of_imp fun same => same ▸ known).symm
  · rw [List.mem_append, List.mem_singleton]

def identifiers (rules : List GuardrailRule) (findings : List GuardrailDetectorFinding) :
    List String :=
  if rules ≠ [] then rules.map GuardrailRule.id else findings.map GuardrailDetectorFinding.id

/-- The rules and findings of the second decision that ask for approval are in the first. -/
structure Covers (rules : List GuardrailRule) (findings : List GuardrailDetectorFinding)
    (rules' : List GuardrailRule) (findings' : List GuardrailDetectorFinding) : Prop where
  rules : ∀ rule ∈ rules', rule.action = .requireApproval →
    rule.id ∈ rules.map GuardrailRule.id
  findings : ∀ finding ∈ findings', finding.action = .requireApproval →
    finding.id ∈ findings.map GuardrailDetectorFinding.id

variable {stage stage' : GuardrailStage} {rules rules' : List GuardrailRule}
  {findings findings' : List GuardrailDetectorFinding} {decision decision' : GuardrailDecision}

theorem identifiers_ne_nil (listed : outcomesOf rules findings ≠ []) :
    identifiers rules findings ≠ [] := by
  intro none_
  unfold identifiers at none_
  split at none_ <;> simp_all [outcomesOf]

theorem GuardrailDecision.Decides.listed (decides : decision.Decides rules findings)
    (asked : decision.approvalRequired = true) : outcomesOf rules findings ≠ [] := by
  rw [decides.approvalRequired, decide_eq_true_iff] at asked
  obtain allowed | ⟨outcome, member, -⟩ := decides.chosen
  · rw [asked] at allowed
    cases allowed
  · exact List.ne_nil_of_mem member

theorem GuardrailDecision.Decides.key (decides : decision.Decides rules findings)
    (asked : decision.approvalRequired = true) :
    guardrailApprovalKey stage decision.matchedRuleIds decision.detectorFindingIds
      decision.action = stage.value ++ ":" ++ ",".intercalate (identifiers rules findings) := by
  have some_ := identifiers_ne_nil (decides.listed asked)
  unfold guardrailApprovalKey
  rw [decides.matchedRuleIds, decides.detectorFindingIds]
  unfold identifiers at some_ ⊢
  simp only [ne_eq, List.map_eq_nil_iff] at some_ ⊢
  rw [if_pos some_]

theorem asked_of_paused {blocked reason key told : String} {keys : List String}
    (paused : checkDecision stage blocked reason decision keys =
      .error (.approvalRequired key told)) :
    decision.approvalRequired = true ∧ key ∉ keys ∧
      key = guardrailApprovalKey stage decision.matchedRuleIds decision.detectorFindingIds
        decision.action := by
  unfold checkDecision at paused
  split at paused
  · simp at paused
  · split at paused
    · next asked =>
      dsimp only at paused
      split at paused
      · cases paused
      · next unknown =>
        obtain ⟨rfl, -⟩ := GuardrailRefusal.approvalRequired.inj (Except.error.inj paused)
        exact ⟨asked, unknown, rfl⟩
    · cases paused

/-- After the approval of one decision another one passes that would not have before, exactly when
the two have the stage and the joined ids in common. -/
theorem passes_iff {blocked reason blocked' reason' key told : String} {keys : List String}
    (decides : decision.Decides rules findings) (decides' : decision'.Decides rules' findings')
    (paused : checkDecision stage blocked reason decision keys =
      .error (.approvalRequired key told)) :
    checkDecision stage' blocked' reason' decision' (approveKey keys key) = .ok () ∧
        checkDecision stage' blocked' reason' decision' keys ≠ .ok () ↔
      stage = stage' ∧ WantsApproval (outcomesOf rules' findings') ∧
        ",".intercalate (identifiers rules findings) =
          ",".intercalate (identifiers rules' findings') := by
  obtain ⟨wanted, new, rfl⟩ := asked_of_paused paused
  rw [decides.key wanted] at new ⊢
  rw [← decides'.wants]
  unfold checkDecision
  cases decision'.blocked with
  | true => simp
  | false =>
    cases asked : decision'.approvalRequired with
    | false => simp
    | true =>
      simp only [Bool.false_eq_true, if_false, if_true, decides'.key asked, mem_approveKey]
      constructor
      · rintro ⟨passes, refused⟩
        have unknown' := fun there => refused (if_pos there)
        split at passes
        · next known =>
          obtain ⟨rfl, same⟩ := key_inj.mp (known.resolve_left unknown')
          exact ⟨rfl, ⟨trivial, trivial⟩, same.symm⟩
        · cases passes
      · rintro ⟨rfl, -, same⟩
        rw [same] at new
        refine ⟨if_pos (.inr (by rw [same])), ?_⟩
        rw [if_neg new]
        nofun

theorem intercalate_inj {xs ys : List String} (some_xs : xs ≠ []) (some_ys : ys ≠ [])
    (free : ∀ id ∈ xs ++ ys, ',' ∉ id.toList) (same : ",".intercalate xs = ",".intercalate ys) :
    xs = ys := by
  have parts {ids : List String} (some_ : ids ≠ []) (free : ∀ id ∈ ids, ',' ∉ id.toList) :
      (",".intercalate ids).toList.splitOn ',' = ids.map String.toList := by
    rw [String.toList_intercalate]
    exact List.splitOn_intercalate ',' (by simpa using free) (by simpa using some_)
  have chars := parts some_xs fun id among => free id (List.mem_append_left _ among)
  rw [same, parts some_ys fun id among => free id (List.mem_append_right _ among)] at chars
  exact (List.map_injective_iff.mpr (fun _ _ => String.toList_injective) chars).symm

/-- The approval reaches the decisions with its stage and its joined ids. Where the ids tell the
rules apart it covers every rule of such a decision, and what may be left is a finding beside a rule. -/
theorem approval_reaches {blocked reason blocked' reason' key told : String} {keys : List String}
    (decides : decision.Decides rules findings) (decides' : decision'.Decides rules' findings')
    (paused : checkDecision stage blocked reason decision keys =
      .error (.approvalRequired key told)) :
    (checkDecision stage' blocked' reason' decision' (approveKey keys key) = .ok () ∧
        checkDecision stage' blocked' reason' decision' keys ≠ .ok () ↔
      stage = stage' ∧ WantsApproval (outcomesOf rules' findings') ∧
        ",".intercalate (identifiers rules findings) =
          ",".intercalate (identifiers rules' findings')) ∧
    ((rules = [] ↔ rules' = []) →
      (∀ id ∈ identifiers rules findings ++ identifiers rules' findings', ',' ∉ id.toList) →
      checkDecision stage' blocked' reason' decision' (approveKey keys key) = .ok () →
      checkDecision stage' blocked' reason' decision' keys ≠ .ok () →
      (Covers rules findings rules' findings' ↔
        (rules ≠ [] → ∀ finding ∈ findings', finding.action = .requireApproval →
          finding.id ∈ findings.map GuardrailDetectorFinding.id))) := by
  have passes := @passes_iff stage stage' rules rules' findings findings' decision decision' blocked
    reason blocked' reason' key told keys decides decides' paused
  refine ⟨passes, fun kinds free granted refused => ?_⟩
  obtain ⟨-, wanted, same⟩ := passes.mp ⟨granted, refused⟩
  have some_' : outcomesOf rules' findings' ≠ [] := List.ne_nil_of_mem wanted.1.choose_spec.1
  have some_ := decides.listed (asked_of_paused paused).1
  have ids := intercalate_inj (identifiers_ne_nil some_) (identifiers_ne_nil some_') free same
  unfold identifiers at ids
  by_cases ruled : rules = []
  · have ruled' := kinds.mp ruled
    subst ruled ruled'
    simp only [ne_eq, not_true_eq_false, if_false] at ids
    refine iff_of_true ⟨by simp, fun finding among _ => ?_⟩ fun impossible => absurd rfl impossible
    exact ids ▸ List.mem_map_of_mem among
  · rw [if_pos ruled, if_pos fun none_ => ruled (kinds.mpr none_)] at ids
    refine ⟨fun covers _ => covers.findings, fun rest => ⟨fun rule among _ => ?_, rest ruled⟩⟩
    exact ids ▸ List.mem_map_of_mem among

def modelSecret : GuardrailRule := { approveSecret with stage := .modelRequest }

def cardFinding : GuardrailDetectorFinding where
  id := "card"
  detectorId := "cards"
  label := "card"
  action := .requireApproval
  message := "card"

def findsCards : GuardrailDetector := fun request =>
  .ok (if includes request.content "card" then [cardFinding] else [])

def secretService : InMemoryGuardrailService := ⟨[modelSecret], [findsCards]⟩

def modelAsks (content : String) : GuardrailEvaluationRequest :=
  ⟨"tenant", none, .modelRequest, content, []⟩

/-- Who approved the secret is not asked again when a card comes with it. -/
theorem card_passes_with_secret : ∃ first second,
    secretService.evaluate asciiTexts.toTextRules (modelAsks "a secret") = .ok first ∧
      secretService.evaluate asciiTexts.toTextRules (modelAsks "a secret card") = .ok second ∧
      checkModelRequest second (approveKey [] "model_request:approve-secret") = .ok () ∧
      ¬Covers [modelSecret] [] [modelSecret] [cardFinding] := by
  obtain ⟨first, decided⟩ : ∃ first, decisionOf asciiTexts.toTextRules (modelAsks "a secret")
      [modelSecret] [] = .ok first := ⟨_, rfl⟩
  obtain ⟨second, decided'⟩ : ∃ second, decisionOf asciiTexts.toTextRules
      (modelAsks "a secret card") [modelSecret] [cardFinding] = .ok second := ⟨_, rfl⟩
  have paused : checkModelRequest first [] =
      .error (.approvalRequired "model_request:approve-secret" "secret") := by
    cases decided
    rfl
  have reaches : (checkModelRequest second (approveKey [] "model_request:approve-secret") = .ok () ∧
      checkModelRequest second [] ≠ .ok () ↔ _) ∧ _ :=
    approval_reaches (decisionOf_decides decided) (decisionOf_decides decided') paused
  have passes := reaches.1.mpr ⟨rfl, by simp [WantsApproval, outcomesOf, modelSecret, approveSecret,
    cardFinding, GuardrailAction.blocks], rfl⟩
  refine ⟨first, second, decided, decided', passes.1, fun covers => ?_⟩
  exact absurd (covers.findings cardFinding List.mem_cons_self rfl) List.not_mem_nil

end Taroai.Governance
