import Mathlib
import Taroai.Evaluation.Service

/-! When a run of a suite gives its verdict, and which. One case that cannot be scored loses the
whole run, and so do more tool errors than tool calls. -/

namespace Taroai.Evaluation

open Json

def ExecutorOutcome.tools : ExecutorOutcome → Nat × Nat
  | .returned observation => (observation.toolCalls, observation.toolErrors)
  | .raised _ => (0, 0)

def totalOver (cases : List GoldenCase) (outcomes : Nat → ExecutorOutcome)
    (count : Nat × Nat → Nat) : Nat :=
  ((List.range cases.length).map fun place => count (outcomes place).tools).sum

/-- The request is one that the service takes: the kinds agree, the digest is there, and each input
meets its schema. -/
structure Valid (texts : Texts) (target : EvaluationTarget) (suite : EvaluationSuite) : Prop where
  inputs : ∀ case ∈ suite.cases, validateInput texts case = .ok []
  kind : suite.targetKind = target.kind
  digest : target.digest ≠ ""

def Scorable (texts : Texts) (case : GoldenCase) (outcome : ExecutorOutcome) : Prop :=
  ∃ observation score, observed outcome = .ok observation ∧
    scoreOutput texts case.expected observation.output observation.rubricScores = .ok score

structure Promotable (suite : EvaluationSuite) (results : List EvaluationCaseResult)
    (metrics : EvaluationMetrics) (comparison : Option BaselineComparison) : Prop where
  score : suite.gate.minimumScore ≤ metrics.weightedScore
  success : suite.gate.minimumSuccessRate ≤ metrics.successRate
  toolErrors : metrics.toolErrorRate ≤ suite.gate.maximumToolErrorRate
  interventions : metrics.humanInterventionRate ≤ suite.gate.maximumHumanInterventionRate
  latency : ∀ maximum, suite.gate.maximumP95LatencySeconds = some maximum →
    metrics.p95LatencySeconds ≤ maximum
  critical : ∀ entry ∈ List.zip suite.cases results, entry.1.critical = true → entry.2.passed = true
  sideEffects : ∀ entry ∈ List.zip suite.cases results, entry.2.sideEffectViolations = []
  baseline : ∀ compared, comparison = some compared → compared.passed = true

structure Recorded (texts : Texts) (repository : InMemoryEvaluationRepository)
    (target : EvaluationTarget) (suite : EvaluationSuite) (outcomes : Nat → ExecutorOutcome)
    (compareToLatestBaseline : Bool) (run : EvaluationRun) (stored : InMemoryEvaluationRepository) :
    Prop where
  stored : stored.runs.get? run.key = some run
  length : run.caseResults.length = suite.cases.length
  results : ∀ (place : Nat) (case : GoldenCase), suite.cases[place]? = some case →
    ∃ result, run.caseResults[place]? = some result ∧
      executeCase texts case (outcomes place) = .ok result
  metrics : aggregateMetrics suite run.caseResults = .ok run.metrics
  comparison : run.baselineComparison = if compareToLatestBaseline then
      (repository.latestBaseline target suite).map fun baseline =>
        compareMetrics baseline run.metrics suite.gate.regression
    else none
  allowed : run.promotionGate.allowed = true ↔
    Promotable suite run.caseResults run.metrics run.baselineComparison

section Scores

variable {texts : Texts}

theorem validated_eq_ok {score built : OutputScore} (ok : score.validated = .ok built) :
    built = score ∧ Unit01 score.score := by
  unfold OutputScore.validated at ok
  split at ok <;> cases ok
  exact ⟨rfl, by assumption⟩

theorem validated_of_unit {score : OutputScore} (bounds : Unit01 score.score) :
    score.validated = .ok score := if_pos bounds

theorem bind_eq_ok {α β : Type} {m : Except EvaluationError α} {k : α → Except EvaluationError β}
    {b : β} : (m >>= k) = .ok b ↔ ∃ a, m = .ok a ∧ k a = .ok b := except_bind_ok

theorem unit_of_scoreOutput {contract : ExpectedOutputContract} {output : Json}
    {rubric : List (String × ℚ)} {score : OutputScore}
    (ok : scoreOutput texts contract output rubric = .ok score) : Unit01 score.score := by
  have of_validated : ∀ built : OutputScore, built.validated = .ok score → Unit01 score.score := by
    intro built ok
    obtain ⟨rfl, bounds⟩ := validated_eq_ok ok
    exact bounds
  unfold scoreOutput at ok
  split at ok
  · obtain ⟨passed, -, ok⟩ := bind_eq_ok.mp ok
    exact of_validated _ ok
  · obtain ⟨violations, -, ok⟩ := bind_eq_ok.mp ok
    exact of_validated _ ok
  · exact of_validated _ ok
  · exact of_validated _ ok

theorem unit_weightedAverage {entries : List (ℚ × ℚ)}
    (bounds : ∀ entry ∈ entries, 0 < entry.1 ∧ Unit01 entry.2) : Unit01 (weightedAverage entries) := by
  have products : 0 ≤ (entries.map fun entry => entry.1 * entry.2).sum := by
    refine List.sum_nonneg fun product member => ?_
    obtain ⟨entry, there, rfl⟩ := List.mem_map.mp member
    obtain ⟨weight, score⟩ := bounds entry there
    exact mul_nonneg weight.le score.1
  have below : (entries.map fun entry => entry.1 * entry.2).sum ≤ (entries.map Prod.fst).sum := by
    refine List.sum_le_sum fun entry there => ?_
    obtain ⟨weight, score⟩ := bounds entry there
    exact mul_le_of_le_one_right weight.le score.2
  exact ⟨div_nonneg products (products.trans below), div_le_one_of_le₀ below (products.trans below)⟩

theorem unit_rate {count total : Nat} (bound : count ≤ total) : Unit01 (rate count total) :=
  ⟨div_nonneg (Nat.cast_nonneg _) (Nat.cast_nonneg _),
    div_le_one_of_le₀ (Nat.cast_le.mpr bound) (Nat.cast_nonneg _)⟩

theorem unit_clamped (q : ℚ) : Unit01 (clamped q) :=
  ⟨le_max_left _ _, max_le zero_le_one (min_le_left _ _)⟩

theorem scoreContains_ok (texts : Texts) (contract : ExpectedOutputContract) (output : Json) :
    ∃ score, scoreContains texts contract output = .ok score := by
  refine ⟨_, validated_of_unit (unit_rate ?_)⟩
  exact List.length_filter_le _ _

theorem scoreWeightedRubric_ok (texts : Texts) (contract : ExpectedOutputContract)
    (supplied : List (String × ℚ)) :
    ∃ score, scoreWeightedRubric texts contract supplied = .ok score := by
  refine ⟨_, validated_of_unit (unit_weightedAverage fun entry member => ?_)⟩
  obtain ⟨criterion, -, rfl⟩ := List.mem_map.mp member
  exact ⟨criterion.weight_pos, unit_clamped _⟩

end Scores

section Cases

variable {texts : Texts} {case : GoldenCase} {outcome : ExecutorOutcome}

theorem executeCase_eq_ok (valid : validateInput texts case = .ok []) {result : EvaluationCaseResult} :
    executeCase texts case outcome = .ok result ↔ ∃ observation score,
      observed outcome = .ok observation ∧
      scoreOutput texts case.expected observation.output observation.rubricScores = .ok score ∧
      caseResult case observation score = result := by
  unfold executeCase
  rw [valid]
  simp only [bind_eq_ok, Except.ok.injEq, exists_eq_left', ne_eq, not_true_eq_false, if_false]
  constructor
  · rintro ⟨observation, seen, score, scored, built⟩
    exact ⟨observation, score, seen, scored, Except.ok.inj built⟩
  · rintro ⟨observation, score, seen, scored, rfl⟩
    exact ⟨observation, seen, score, scored, rfl⟩

theorem tools_of_observed {observation : EvaluationObservation}
    (seen : observed outcome = .ok observation) :
    outcome.tools = (observation.toolCalls, observation.toolErrors) := by
  cases outcome with
  | returned returned =>
    cases seen
    rfl
  | raised className =>
    simp only [observed] at seen
    split at seen <;> cases seen
    rfl

theorem result_of_executeCase (valid : validateInput texts case = .ok [])
    {result : EvaluationCaseResult} (ok : executeCase texts case outcome = .ok result) :
    Unit01 result.score ∧ (result.toolCalls, result.toolErrors) = outcome.tools := by
  obtain ⟨observation, score, seen, scored, rfl⟩ := (executeCase_eq_ok valid).mp ok
  exact ⟨unit_of_scoreOutput scored, (tools_of_observed seen).symm⟩

theorem executeCase_ok_iff (valid : validateInput texts case = .ok []) :
    (∃ result, executeCase texts case outcome = .ok result) ↔ Scorable texts case outcome := by
  simp only [executeCase_eq_ok valid]
  constructor
  · rintro ⟨-, observation, score, seen, scored, -⟩
    exact ⟨observation, score, seen, scored⟩
  · rintro ⟨observation, score, seen, scored⟩
    exact ⟨_, observation, score, seen, scored, rfl⟩

end Cases

section Suite

variable {texts : Texts} {cases : List GoldenCase} {outcomes : Nat → ExecutorOutcome}
  {results : List EvaluationCaseResult}

theorem executeCases_eq_ok : executeCases texts cases outcomes = .ok results ↔
    results.length = cases.length ∧ ∀ (place : Nat) (case : GoldenCase), cases[place]? = some case →
      ∃ result, results[place]? = some result ∧
        executeCase texts case (outcomes place) = .ok result := by
  induction cases generalizing outcomes results with
  | nil => cases results <;> simp [executeCases]
  | cons case rest ih =>
    simp only [executeCases, bind_eq_ok, pure, Except.pure, Except.ok.injEq]
    constructor
    · rintro ⟨result, first, others, later, rfl⟩
      obtain ⟨length, each⟩ := ih.mp later
      refine ⟨congrArg Nat.succ length, fun place other found => ?_⟩
      cases place with
      | zero =>
        cases found
        exact ⟨result, rfl, first⟩
      | succ place => exact each place other found
    · rintro ⟨length, each⟩
      obtain ⟨result, here, first⟩ := each 0 case rfl
      cases results with
      | nil => cases here
      | cons head tail =>
        obtain rfl : head = result := Option.some.inj here
        refine ⟨head, first, tail, ih.mpr ⟨Nat.succ.inj length, fun place other found => ?_⟩, rfl⟩
        exact each (place + 1) other found

theorem executeCases_ok_iff (valid : ∀ case ∈ cases, validateInput texts case = .ok []) :
    (∃ results, executeCases texts cases outcomes = .ok results) ↔
      ∀ (place : Nat) (case : GoldenCase), cases[place]? = some case →
        Scorable texts case (outcomes place) := by
  constructor
  · rintro ⟨results, ok⟩ place case found
    obtain ⟨result, -, executed⟩ := (executeCases_eq_ok.mp ok).2 place case found
    exact (executeCase_ok_iff (valid case (List.mem_of_getElem? found))).mp ⟨result, executed⟩
  · intro scorable
    induction cases generalizing outcomes with
    | nil => exact ⟨[], rfl⟩
    | cons case rest ih =>
      obtain ⟨result, first⟩ :=
        (executeCase_ok_iff (valid case List.mem_cons_self)).mpr (scorable 0 case rfl)
      obtain ⟨others, later⟩ : ∃ others,
          executeCases texts rest (fun place => outcomes (place + 1)) = .ok others :=
        ih (fun other member => valid other (List.mem_cons_of_mem _ member))
          fun place other found => scorable (place + 1) other found
      refine ⟨result :: others, ?_⟩
      simp only [executeCases, first, later]
      rfl

end Suite

section Metrics

variable {texts : Texts} {suite : EvaluationSuite} {outcomes : Nat → ExecutorOutcome}
  {results : List EvaluationCaseResult}

theorem metrics_validated_iff {metrics : EvaluationMetrics} :
    (∃ built, metrics.validated = .ok built) ↔ Unit01 metrics.weightedScore ∧
      Unit01 metrics.successRate ∧ Unit01 metrics.toolErrorRate ∧
      Unit01 metrics.humanInterventionRate := by
  unfold EvaluationMetrics.validated
  by_cases weighted : Unit01 metrics.weightedScore <;>
    by_cases success : Unit01 metrics.successRate <;>
    by_cases tools : Unit01 metrics.toolErrorRate <;>
    by_cases human : Unit01 metrics.humanInterventionRate <;>
    simp [weighted, success, tools, human]

theorem unit_toolErrorRate {errors calls : Nat} :
    Unit01 (if calls ≠ 0 then rate errors calls else 0) ↔ calls = 0 ∨ errors ≤ calls := by
  by_cases none_called : calls = 0
  · simp [none_called, Unit01]
  · rw [if_pos none_called]
    have positive : (0 : ℚ) < calls := Nat.cast_pos.mpr (Nat.pos_of_ne_zero none_called)
    constructor
    · rintro ⟨-, bound⟩
      have below : (errors : ℚ) ≤ calls := (div_le_one positive).mp bound
      exact .inr (Nat.cast_le.mp below)
    · rintro (absent | bound)
      · exact absurd absent none_called
      · exact unit_rate bound

theorem aggregateMetrics_ok_iff (scores : ∀ result ∈ results, Unit01 result.score) :
    (∃ metrics, aggregateMetrics suite results = .ok metrics) ↔
      (results.map EvaluationCaseResult.toolCalls).sum = 0 ∨
        (results.map EvaluationCaseResult.toolErrors).sum ≤
          (results.map EvaluationCaseResult.toolCalls).sum := by
  unfold aggregateMetrics
  rw [metrics_validated_iff, ← unit_toolErrorRate]
  have weighted : Unit01 (weightedAverage (List.zipWith
      (fun (case : GoldenCase) (result : EvaluationCaseResult) => (case.weight, result.score))
      suite.cases results)) := by
    refine unit_weightedAverage fun entry member => ?_
    rw [← List.map_uncurry_zip_eq_zipWith, List.mem_map] at member
    obtain ⟨⟨case, result⟩, both, rfl⟩ := member
    exact ⟨case.weight_pos, scores result (List.of_mem_zip both).2⟩
  have success := unit_rate (List.countP_le_length (p := EvaluationCaseResult.passed) (l := results))
  have human := unit_rate (List.countP_le_length
    (p := fun result : EvaluationCaseResult => 0 < result.humanInterventions) (l := results))
  exact ⟨fun all => all.2.2.1, fun tools => ⟨weighted, success, tools, human⟩⟩

theorem tools_of_executeCases (valid : ∀ case ∈ suite.cases, validateInput texts case = .ok [])
    (ok : executeCases texts suite.cases outcomes = .ok results) :
    results.map (fun result => (result.toolCalls, result.toolErrors)) =
      (List.range suite.cases.length).map fun place => (outcomes place).tools := by
  obtain ⟨length, each⟩ := executeCases_eq_ok.mp ok
  refine List.ext_getElem (by simp [length]) fun place inside _ => ?_
  rw [List.getElem_map, List.getElem_map, List.getElem_range]
  rw [List.length_map] at inside
  have found : suite.cases[place]? = some suite.cases[place] :=
    List.getElem?_eq_getElem (length ▸ inside)
  obtain ⟨result, here, executed⟩ := each place _ found
  rw [List.getElem?_eq_getElem inside, Option.some.injEq] at here
  rw [here]
  exact (result_of_executeCase (valid _ (List.mem_of_getElem? found)) executed).2

theorem scores_of_executeCases (valid : ∀ case ∈ suite.cases, validateInput texts case = .ok [])
    (ok : executeCases texts suite.cases outcomes = .ok results) :
    ∀ result ∈ results, Unit01 result.score := by
  obtain ⟨length, each⟩ := executeCases_eq_ok.mp ok
  intro result member
  obtain ⟨place, inside, rfl⟩ := List.getElem_of_mem member
  have found : suite.cases[place]? = some suite.cases[place] :=
    List.getElem?_eq_getElem (length ▸ inside)
  obtain ⟨other, here, executed⟩ := each place _ found
  rw [List.getElem?_eq_getElem inside, Option.some.injEq] at here
  rw [here]
  exact (result_of_executeCase (valid _ (List.mem_of_getElem? found)) executed).1

theorem total_of_results (valid : ∀ case ∈ suite.cases, validateInput texts case = .ok [])
    (ok : executeCases texts suite.cases outcomes = .ok results) (count : Nat × Nat → Nat) :
    (results.map fun result => count (result.toolCalls, result.toolErrors)).sum =
      totalOver suite.cases outcomes count := by
  have same := congrArg (List.map count) (tools_of_executeCases valid ok)
  rw [List.map_map, List.map_map] at same
  exact congrArg List.sum same

end Metrics

section Gate

theorem whenever_eq_nil {entries : List (Bool × String)} :
    whenever entries = [] ↔ ∀ entry ∈ entries, entry.1 = false := by
  simp [whenever, List.filter_eq_nil_iff]

theorem evaluatePromotionGate_allowed {suite : EvaluationSuite} {results : List EvaluationCaseResult}
    {metrics : EvaluationMetrics} {comparison : Option BaselineComparison} :
    (evaluatePromotionGate suite results metrics comparison).allowed = true ↔
      Promotable suite results metrics comparison := by
  simp only [evaluatePromotionGate, List.isEmpty_iff, List.append_eq_nil_iff, whenever_eq_nil,
    List.flatMap_eq_nil_iff, List.forall_mem_cons, List.not_mem_nil, false_implies, implies_true,
    and_true, decide_eq_false_iff_not, not_lt, Bool.and_eq_false_iff, Bool.not_eq_false',
    List.isEmpty_iff]
  constructor
  · rintro ⟨⟨⟨score, success, tools, human, latency⟩, cases⟩, baseline⟩
    refine ⟨score, success, tools, human, fun maximum given => ?_, fun entry member critical => ?_,
      fun entry member => (cases entry member).2, fun compared given => ?_⟩
    · rw [given] at latency
      simpa using latency
    · obtain uncritical | passed := (cases entry member).1
      · cases critical.symm.trans uncritical
      · exact passed
    · rw [given] at baseline
      simpa using baseline
  · rintro ⟨score, success, tools, human, latency, critical, effects, baseline⟩
    refine ⟨⟨⟨score, success, tools, human, ?_⟩, fun entry member => ⟨?_, effects entry member⟩⟩, ?_⟩
    · cases given : suite.gate.maximumP95LatencySeconds with
      | none => rfl
      | some maximum => simpa using latency maximum given
    · cases asked : entry.1.critical with
      | false => exact .inl rfl
      | true => exact .inr (critical entry member asked)
    · cases given : comparison with
      | none => rfl
      | some compared => simpa using baseline compared given

end Gate

section Run

variable {texts : Texts} {repository stored : InMemoryEvaluationRepository}
  {target : EvaluationTarget} {suite : EvaluationSuite} {outcomes : Nat → ExecutorOutcome}
  {compareToLatestBaseline : Bool} {runId : String} {run : EvaluationRun}

theorem validateSuite_eq_ok : validateSuite texts suite = .ok () ↔
    ∀ case ∈ suite.cases, validateInput texts case = .ok [] := by
  unfold validateSuite
  generalize suite.cases = cases
  induction cases with
  | nil => exact iff_of_true rfl fun _ member => nomatch member
  | cons case rest ih =>
    have unfolded : ∀ f : GoldenCase → Except EvaluationError Unit,
      (case :: rest).forM f = (f case >>= fun _ => rest.forM f) := fun _ => rfl
    rw [unfolded, List.forall_mem_cons, ← ih, bind_eq_ok]
    constructor
    · rintro ⟨⟨⟩, here, later⟩
      obtain ⟨violations, checked, kept⟩ := bind_eq_ok.mp here
      split at kept
      · cases kept
      · next none_found => exact ⟨not_not.mp none_found ▸ checked, later⟩
    · rintro ⟨here, later⟩
      refine ⟨(), bind_eq_ok.mpr ⟨[], here, rfl⟩, later⟩

theorem saveRun_eq_ok : repository.saveRun run = .ok stored ↔
    repository.runs.get? run.key = none ∧
      stored = { repository with runs := repository.runs.put run } := by
  unfold InMemoryEvaluationRepository.saveRun
  cases repository.runs.get? run.key <;> simp [eq_comm]

theorem runSuite_eq_ok :
    runSuite texts repository target suite outcomes compareToLatestBaseline runId =
        .ok (run, stored) ↔
      Valid texts target suite ∧ ∃ results metrics,
        executeCases texts suite.cases outcomes = .ok results ∧
        aggregateMetrics suite results = .ok metrics ∧
        repository.runs.get? (target.tenantId, runId) = none ∧
        run = assembleRun repository target suite compareToLatestBaseline runId results metrics ∧
        stored = { repository with runs := repository.runs.put run } := by
  unfold runSuite
  constructor
  · intro ok
    obtain ⟨⟨⟩, valid, ok⟩ := bind_eq_ok.mp ok
    split at ok
    · cases ok
    · next kind =>
      split at ok
      · cases ok
      · next digest =>
        obtain ⟨results, executed, ok⟩ := bind_eq_ok.mp ok
        obtain ⟨metrics, aggregated, ok⟩ := bind_eq_ok.mp ok
        obtain ⟨kept, saved, ok⟩ := bind_eq_ok.mp ok
        cases ok
        obtain ⟨new, rfl⟩ := saveRun_eq_ok.mp saved
        exact ⟨⟨validateSuite_eq_ok.mp valid, not_not.mp kind, digest⟩, results, metrics, executed,
          aggregated, new, rfl, rfl⟩
  · rintro ⟨⟨inputs, kind, digest⟩, results, metrics, executed, aggregated, new, rfl, rfl⟩
    refine bind_eq_ok.mpr ⟨(), validateSuite_eq_ok.mpr inputs, ?_⟩
    rw [if_neg (not_not.mpr kind), if_neg digest]
    refine bind_eq_ok.mpr ⟨results, executed, bind_eq_ok.mpr ⟨metrics, aggregated, ?_⟩⟩
    exact bind_eq_ok.mpr ⟨_, saveRun_eq_ok.mpr ⟨new, rfl⟩, rfl⟩

/-- The run completes exactly if the request is valid, every case can be scored, there are no more
tool errors than tool calls, and the run is new. -/
theorem runSuite_ok_iff :
    (∃ answer, runSuite texts repository target suite outcomes compareToLatestBaseline runId =
        .ok answer) ↔
      Valid texts target suite ∧
      (∀ (place : Nat) (case : GoldenCase), suite.cases[place]? = some case →
        Scorable texts case (outcomes place)) ∧
      (totalOver suite.cases outcomes Prod.fst = 0 ∨
        totalOver suite.cases outcomes Prod.snd ≤ totalOver suite.cases outcomes Prod.fst) ∧
      repository.runs.get? (target.tenantId, runId) = none := by
  constructor
  · rintro ⟨⟨run, stored⟩, ok⟩
    obtain ⟨valid, results, metrics, executed, aggregated, new, -, -⟩ := runSuite_eq_ok.mp ok
    have tools := (aggregateMetrics_ok_iff (scores_of_executeCases valid.inputs executed)).mp
      ⟨metrics, aggregated⟩
    rw [← total_of_results valid.inputs executed, ← total_of_results valid.inputs executed]
    exact ⟨valid, (executeCases_ok_iff valid.inputs).mp ⟨results, executed⟩, tools, new⟩
  · rintro ⟨valid, scorable, tools, new⟩
    obtain ⟨results, executed⟩ := (executeCases_ok_iff valid.inputs).mpr scorable
    rw [← total_of_results valid.inputs executed, ← total_of_results valid.inputs executed] at tools
    obtain ⟨metrics, aggregated⟩ :=
      (aggregateMetrics_ok_iff (scores_of_executeCases valid.inputs executed)).mpr tools
    exact ⟨(_, _), runSuite_eq_ok.mpr
      ⟨valid, results, metrics, executed, aggregated, new, rfl, rfl⟩⟩

theorem recorded_of_runSuite
    (ok : runSuite texts repository target suite outcomes compareToLatestBaseline runId =
      .ok (run, stored)) :
    Recorded texts repository target suite outcomes compareToLatestBaseline run stored := by
  obtain ⟨valid, results, metrics, executed, aggregated, new, rfl, rfl⟩ := runSuite_eq_ok.mp ok
  obtain ⟨length, each⟩ := executeCases_eq_ok.mp executed
  exact {
    stored := Table.get?_put_self _ _
    length := length
    results := each
    metrics := aggregated
    comparison := rfl
    allowed := evaluatePromotionGate_allowed }

end Run

section Lost

def silent : Texts where
  format _ := ""
  formatList _ := ""
  formatScore _ := ""
  dumps _ := ""
  casefold s := s
  search _ _ := none

def countCase : GoldenCase where
  id := "count"
  version := "1"
  inputSchema := []
  expected :=
    { scorer := .exact
      exactValue := .int 1
      contains_given := fun scorer => nomatch scorer
      rubric_given := fun scorer => nomatch scorer }
  weight_pos := one_pos

def countSuite : EvaluationSuite where
  id := "counts"
  version := "1"
  targetKind := .skill
  cases := [countCase]
  cases_ne := List.cons_ne_nil _ _

def countTarget : EvaluationTarget := ⟨"acme", .skill, "counter", "1", "sha256:0a"⟩

theorem countSuite_valid : Valid silent countTarget countSuite where
  inputs case member := by
    rw [List.mem_singleton.mp member]
    simp [validateInput, countCase, validateJsonSchema, validateKeywords, validateObject,
      validateChoices, Items.get?, checkConst, checkEnum, checkRequired, checkAdditional, checkCount,
      checkRange, Governance.Schema.checkBound, Governance.Schema.iterate, missingProperties,
      Governance.Schema.joined, bind, Except.bind, pure, Except.pure, Except.mapError]
  kind := rfl
  digest := by decide

def tooLarge : Int := 2 ^ 1024

theorem floatOfInt_tooLarge : floatOfInt tooLarge = .error .overflow := if_neg (by decide +kernel)

end Lost

end Taroai.Evaluation
