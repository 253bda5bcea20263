import Mathlib
import Taroai.Evaluation.Scorers
import Taroai.Lib.Ranked
import Taroai.Lib.Table
import Taroai.Clock

/-! `EvaluationService.run`: the cases of a suite are executed and scored one by one, the results
make up the metrics, and the metrics and the results make up the verdict of the promotion gate. What
the executor does at each case is given; an exception of its class name. -/

namespace Taroai.Evaluation

open Json

inductive EvaluationTargetKind where
  | agent
  | skill
deriving DecidableEq, Repr

inductive EvaluationCaseStatus where
  | passed
  | failed
  | error
  | budgetExceeded
deriving DecidableEq, Repr

inductive EvaluationRunStatus where
  | running
  | passed
  | failed
  | error
deriving DecidableEq, Repr

structure EvaluationBudget where
  maxTokens : Nat := 100000
  maxCost : NNRat := 100
  maxDurationSeconds : NNRat := 1800
  maxSandboxCost : NNRat := 100

structure SideEffectPolicy where
  allowed : List String := []
  forbidden : List String := []
  allowExternalWrites : Bool := false

structure GoldenCase where
  id : String
  version : String
  input : Items := []
  inputSchema : Items := [("type", .text "object")]
  expected : ExpectedOutputContract
  budget : EvaluationBudget := {}
  sideEffectPolicy : SideEffectPolicy := {}
  weight : ℚ := 1
  critical : Bool := false
  weight_pos : 0 < weight

structure RegressionPolicy where
  maximumScoreRegression : ℚ := 1 / 50
  maximumSuccessRateRegression : ℚ := 1 / 50
  maximumToolErrorRateIncrease : ℚ := 1 / 100
  maximumHumanInterventionRateIncrease : ℚ := 1 / 20
  maximumLatencyRegression : ℚ := 1 / 10
  maximumCostRegression : ℚ := 1 / 10
  maximumSandboxCostRegression : ℚ := 1 / 10

structure EvaluationGatePolicy where
  minimumScore : ℚ := 17 / 20
  minimumSuccessRate : ℚ := 9 / 10
  maximumToolErrorRate : ℚ := 1 / 100
  maximumHumanInterventionRate : ℚ := 1 / 20
  maximumP95LatencySeconds : Option ℚ := none
  regression : RegressionPolicy := {}

structure EvaluationSuite where
  id : String
  version : String
  targetKind : EvaluationTargetKind
  cases : List GoldenCase
  gate : EvaluationGatePolicy := {}
  cases_ne : cases ≠ []

structure EvaluationObservation where
  output : Json := .null
  rubricScores : List (String × ℚ) := []
  tokens : Nat := 0
  cost : NNRat := 0
  sandboxCost : NNRat := 0
  durationSeconds : NNRat := 0
  toolCalls : Nat := 0
  toolErrors : Nat := 0
  humanInterventions : Nat := 0
  sideEffects : List String := []
  externalWrites : Nat := 0
  errorType : Option String := none

inductive ExecutorOutcome where
  | returned (observation : EvaluationObservation)
  | raised (className : String)

structure EvaluationCaseResult where
  caseId : String
  caseVersion : String
  status : EvaluationCaseStatus
  passed : Bool
  score : ℚ
  scorer : ScorerKind
  criterionScores : List CriterionScore := []
  reasons : List String := []
  budgetViolations : List String := []
  sideEffectViolations : List String := []
  tokens : Nat := 0
  cost : NNRat := 0
  sandboxCost : NNRat := 0
  durationSeconds : NNRat := 0
  toolCalls : Nat := 0
  toolErrors : Nat := 0
  humanInterventions : Nat := 0

structure EvaluationMetrics where
  weightedScore : ℚ
  successRate : ℚ
  toolErrorRate : ℚ
  humanInterventionRate : ℚ
  p50LatencySeconds : ℚ
  p95LatencySeconds : ℚ
  totalTokens : Nat
  totalCost : NNRat
  totalSandboxCost : NNRat
  totalDurationSeconds : NNRat

structure MetricRegression where
  metric : String
  baseline : ℚ
  current : ℚ
  delta : ℚ
  allowedDelta : ℚ
  regressed : Bool

structure BaselineComparison where
  baselineRunId : String
  regressions : List MetricRegression
  passed : Bool

structure PromotionGateVerdict where
  allowed : Bool
  reasons : List String := []

structure EvaluationTarget where
  tenantId : String
  kind : EvaluationTargetKind
  id : String
  version : String
  digest : String
deriving DecidableEq, Repr

structure EvaluationRun where
  id : String
  target : EvaluationTarget
  suiteId : String
  suiteVersion : String
  status : EvaluationRunStatus
  caseResults : List EvaluationCaseResult
  metrics : EvaluationMetrics
  baselineComparison : Option BaselineComparison
  promotionGate : PromotionGateVerdict

def EvaluationRun.key (run : EvaluationRun) : String × String := (run.target.tenantId, run.id)

structure EvaluationBaseline where
  tenantId : String
  targetKind : EvaluationTargetKind
  targetId : String
  targetVersion : String
  suiteId : String
  suiteVersion : String
  runId : String
  metrics : EvaluationMetrics
  createdAt : Time

section Repository

structure InMemoryEvaluationRepository where
  runs : Table EvaluationRun.key := .empty
  baselines : List EvaluationBaseline := []

namespace InMemoryEvaluationRepository

variable (repository : InMemoryEvaluationRepository)

def saveRun (run : EvaluationRun) : Except EvaluationError InMemoryEvaluationRepository :=
  match repository.runs.get? run.key with
  | some _ => .error (.value s!"evaluation run already exists: {run.id}")
  | none => .ok { repository with runs := repository.runs.put run }

/-- `max(matches, key=created_at)`: the first of the newest. -/
def latestBaseline (target : EvaluationTarget) (suite : EvaluationSuite) :
    Option EvaluationBaseline :=
  let found := repository.baselines.filter fun baseline =>
    baseline.tenantId = target.tenantId ∧ baseline.targetKind = target.kind ∧
      baseline.targetId = target.id ∧ baseline.targetVersion = target.version ∧
      baseline.suiteId = suite.id ∧ baseline.suiteVersion = suite.version
  found.foldl (fun newest baseline => match newest with
    | none => some baseline
    | some other => if other.createdAt < baseline.createdAt then some baseline else some other) none

end InMemoryEvaluationRepository

end Repository

section Cases

variable (texts : Texts)

def whenever (entries : List (Bool × String)) : List String :=
  (entries.filter Prod.fst).map Prod.snd

def budgetViolations (case : GoldenCase) (observation : EvaluationObservation) : List String :=
  whenever
    [(case.budget.maxTokens < observation.tokens, "token budget exceeded"),
      (case.budget.maxCost < observation.cost, "cost budget exceeded"),
      (case.budget.maxSandboxCost < observation.sandboxCost, "sandbox cost budget exceeded"),
      (case.budget.maxDurationSeconds < observation.durationSeconds, "duration budget exceeded")]

def sideEffectViolations (case : GoldenCase) (observation : EvaluationObservation) : List String :=
  let policy := case.sideEffectPolicy
  let broken := observation.sideEffects.filter fun effect =>
    effect ∉ policy.allowed ∨ effect ∈ policy.forbidden
  let written := whenever [(observation.externalWrites ≠ 0 && !policy.allowExternalWrites,
    "external_write")]
  (broken ++ written).dedup.insertionSort fun a b => a ≤ b

def errorCaseResult (case : GoldenCase) (reasons : List String) (errorType : String) :
    EvaluationCaseResult where
  caseId := case.id
  caseVersion := case.version
  status := .error
  passed := false
  score := 0
  scorer := case.expected.scorer
  reasons := reasons ++ ["error type: " ++ errorType]

/-- The observation of a case; `error_type` has at most 200 characters. -/
def observed : ExecutorOutcome → Except EvaluationError EvaluationObservation
  | .returned observation => .ok observation
  | .raised className =>
    if className.length ≤ 200 then .ok { errorType := some className }
    else .error (.validation "EvaluationObservation" "error_type")

def caseResult (case : GoldenCase) (observation : EvaluationObservation) (score : OutputScore) :
    EvaluationCaseResult :=
  let budget := budgetViolations case observation
  let effects := sideEffectViolations case observation
  let passed := score.passed && budget.isEmpty && effects.isEmpty && observation.errorType.isNone
  { caseId := case.id
    caseVersion := case.version
    status :=
      if passed then .passed
      else if observation.errorType.isSome then .error
      else if budget ≠ [] then .budgetExceeded
      else .failed
    passed := passed
    score := score.score
    scorer := case.expected.scorer
    criterionScores := score.criterionScores
    reasons := score.reasons ++ budget ++ effects ++
      (observation.errorType.map fun errorType => "executor error: " ++ errorType).toList
    budgetViolations := budget
    sideEffectViolations := effects
    tokens := observation.tokens
    cost := observation.cost
    sandboxCost := observation.sandboxCost
    durationSeconds := observation.durationSeconds
    toolCalls := observation.toolCalls
    toolErrors := observation.toolErrors
    humanInterventions := observation.humanInterventions }

def validateInput (case : GoldenCase) : Except EvaluationError (List String) :=
  (validateJsonSchema texts (.dict case.input) case.inputSchema "$").mapError .schema

/-- `_execute_case` -/
def executeCase (case : GoldenCase) (outcome : ExecutorOutcome) :
    Except EvaluationError EvaluationCaseResult := do
  let violations ← validateInput texts case
  if violations ≠ [] then return errorCaseResult case violations "input_contract"
  else
    let observation ← observed outcome
    let score ← scoreOutput texts case.expected observation.output observation.rubricScores
    return caseResult case observation score

/-- The cases in turn; `outcomes` is what the executor does at each place. -/
def executeCases : List GoldenCase → (outcomes : Nat → ExecutorOutcome) →
    Except EvaluationError (List EvaluationCaseResult)
  | [], _ => .ok []
  | case :: rest, outcomes => do
    let result ← executeCase texts case (outcomes 0)
    let others ← executeCases rest fun place => outcomes (place + 1)
    return result :: others

def validateSuite (suite : EvaluationSuite) : Except EvaluationError Unit :=
  suite.cases.forM fun case => do
    let violations ← validateInput texts case
    if violations ≠ [] then throw (.value
      (s!"golden case {case.id}@{case.version} input violates its schema: " ++
        texts.formatList violations))

end Cases

section Metrics

/-- `_percentile` of a sorted list. -/
def percentile (values : List ℚ) (fraction : ℚ) : ℚ :=
  values.getD (min (values.length - 1) (((values.length : ℚ) * fraction).ceil.toNat - 1)) 0

def rate (count total : Nat) : ℚ := (count : ℚ) / total

def EvaluationMetrics.validated (metrics : EvaluationMetrics) :
    Except EvaluationError EvaluationMetrics :=
  if ¬Unit01 metrics.weightedScore then .error (.validation "EvaluationMetrics" "weighted_score")
  else if ¬Unit01 metrics.successRate then .error (.validation "EvaluationMetrics" "success_rate")
  else if ¬Unit01 metrics.toolErrorRate then
    .error (.validation "EvaluationMetrics" "tool_error_rate")
  else if ¬Unit01 metrics.humanInterventionRate then
    .error (.validation "EvaluationMetrics" "human_intervention_rate")
  else .ok metrics

def aggregateMetrics (suite : EvaluationSuite) (results : List EvaluationCaseResult) :
    Except EvaluationError EvaluationMetrics :=
  let toolCalls := (results.map EvaluationCaseResult.toolCalls).sum
  let toolErrors := (results.map EvaluationCaseResult.toolErrors).sum
  let latencies := (results.map fun result => (result.durationSeconds : ℚ)).insertionSort (· ≤ ·)
  EvaluationMetrics.validated
    { weightedScore := weightedAverage (List.zipWith
        (fun (case : GoldenCase) (result : EvaluationCaseResult) => (case.weight, result.score))
        suite.cases results)
      successRate := rate (results.countP EvaluationCaseResult.passed) results.length
      toolErrorRate := if toolCalls ≠ 0 then rate toolErrors toolCalls else 0
      humanInterventionRate :=
        rate (results.countP fun result => 0 < result.humanInterventions) results.length
      p50LatencySeconds := percentile latencies (1 / 2)
      p95LatencySeconds := percentile latencies (19 / 20)
      totalTokens := (results.map EvaluationCaseResult.tokens).sum
      totalCost := (results.map EvaluationCaseResult.cost).sum
      totalSandboxCost := (results.map EvaluationCaseResult.sandboxCost).sum
      totalDurationSeconds := (results.map EvaluationCaseResult.durationSeconds).sum }

/-- One entry of the loop of `compare_metrics`. -/
def regressionOf (metric : String) (baseline current allowedDelta : ℚ) (higherIsBetter : Bool) :
    MetricRegression :=
  let delta := current - baseline
  { metric := metric
    baseline := baseline
    current := current
    delta := delta
    allowedDelta := allowedDelta
    regressed := if higherIsBetter then delta < -allowedDelta else allowedDelta < delta }

def compareMetrics (baseline : EvaluationBaseline) (current : EvaluationMetrics)
    (policy : RegressionPolicy) : BaselineComparison :=
  let before := baseline.metrics
  let regressions :=
    [regressionOf "weighted_score" before.weightedScore current.weightedScore
        policy.maximumScoreRegression true,
      regressionOf "success_rate" before.successRate current.successRate
        policy.maximumSuccessRateRegression true,
      regressionOf "tool_error_rate" before.toolErrorRate current.toolErrorRate
        policy.maximumToolErrorRateIncrease false,
      regressionOf "human_intervention_rate" before.humanInterventionRate
        current.humanInterventionRate policy.maximumHumanInterventionRateIncrease false,
      regressionOf "p95_latency_seconds" before.p95LatencySeconds current.p95LatencySeconds
        (before.p95LatencySeconds * policy.maximumLatencyRegression) false,
      regressionOf "total_cost" before.totalCost current.totalCost
        (before.totalCost * policy.maximumCostRegression) false,
      regressionOf "total_sandbox_cost" before.totalSandboxCost current.totalSandboxCost
        (before.totalSandboxCost * policy.maximumSandboxCostRegression) false]
  { baselineRunId := baseline.runId
    regressions := regressions
    passed := !regressions.any MetricRegression.regressed }

/-- `evaluate_promotion_gate` -/
def evaluatePromotionGate (suite : EvaluationSuite) (results : List EvaluationCaseResult)
    (metrics : EvaluationMetrics) (comparison : Option BaselineComparison) : PromotionGateVerdict :=
  let reasons := whenever
      [(metrics.weightedScore < suite.gate.minimumScore,
          "weighted score is below the suite minimum"),
        (metrics.successRate < suite.gate.minimumSuccessRate,
          "success rate is below the suite minimum"),
        (suite.gate.maximumToolErrorRate < metrics.toolErrorRate,
          "tool error rate exceeds the suite maximum"),
        (suite.gate.maximumHumanInterventionRate < metrics.humanInterventionRate,
          "human intervention rate exceeds the suite maximum"),
        (suite.gate.maximumP95LatencySeconds.any fun maximum => maximum < metrics.p95LatencySeconds,
          "p95 latency exceeds the suite maximum")] ++
    (List.zip suite.cases results).flatMap (fun entry => whenever
      [(entry.1.critical && !entry.2.passed,
          s!"critical golden case failed: {entry.1.id}@{entry.1.version}"),
        (!entry.2.sideEffectViolations.isEmpty,
          s!"side-effect policy failed: {entry.1.id}@{entry.1.version}")]) ++
    whenever [(comparison.any fun comparison => !comparison.passed,
      "baseline regression policy failed")]
  { allowed := reasons.isEmpty, reasons := reasons }

end Metrics

/-- The run that `EvaluationService.run` makes of the results and the metrics. -/
def assembleRun (repository : InMemoryEvaluationRepository) (target : EvaluationTarget)
    (suite : EvaluationSuite) (compareToLatestBaseline : Bool) (runId : String)
    (results : List EvaluationCaseResult) (metrics : EvaluationMetrics) : EvaluationRun :=
  let comparison := if compareToLatestBaseline then
      (repository.latestBaseline target suite).map fun baseline =>
        compareMetrics baseline metrics suite.gate.regression
    else none
  let verdict := evaluatePromotionGate suite results metrics comparison
  { id := runId
    target := target
    suiteId := suite.id
    suiteVersion := suite.version
    status :=
      if verdict.allowed then .passed
      else if results.all fun result => result.status = .error then .error
      else .failed
    caseResults := results
    metrics := metrics
    baselineComparison := comparison
    promotionGate := verdict }

/-- `EvaluationService.run`: the run, and the repository that has stored it. -/
def runSuite (texts : Texts) (repository : InMemoryEvaluationRepository) (target : EvaluationTarget)
    (suite : EvaluationSuite) (outcomes : Nat → ExecutorOutcome) (compareToLatestBaseline : Bool)
    (runId : String) : Except EvaluationError (EvaluationRun × InMemoryEvaluationRepository) := do
  validateSuite texts suite
  if suite.targetKind ≠ target.kind then
    throw (.value "evaluation suite target kind does not match execution target")
  else if target.digest = "" then throw (.value "evaluation target digest is required")
  else
    let results ← executeCases texts suite.cases outcomes
    let metrics ← aggregateMetrics suite results
    let run := assembleRun repository target suite compareToLatestBaseline runId results metrics
    let stored ← repository.saveRun run
    return (run, stored)

end Taroai.Evaluation
