import Mathlib
import Taroai.Clock
import Taroai.Lib.Decimal
import Taroai.Lib.Grouping

/-! `billing/models.py` and `billing/service.py`: an invoice over the usage meters of a period.
Quantities and costs are exact numbers here, rounded to ten decimals where the service rounds.
A period is closed at both ends, so an instant is a period of its own. -/

namespace Taroai.Billing

inductive MeterType where
  | modelTokensInput
  | modelTokensOutput
  | modelTokensCachedInput
  | modelCallCount
  | modelLatencyMs
  | embeddingCallCount
  | embeddingTokens
  | sandboxMinutes
  | browserActionCount
  | toolCallCount
  | storageBytes
  | artifactBytes
  | externalArtifactDownloadBytes
  | egressBytes
  | runCount
  | skillCallCount
  | skillManagementOperationCount
  | triggerInvocationCount
  | connectorInvocationCount
  | connectorSyncDocumentCount
deriving DecidableEq, Repr

def MeterType.value : MeterType → String
  | modelTokensInput => "model_tokens_input"
  | modelTokensOutput => "model_tokens_output"
  | modelTokensCachedInput => "model_tokens_cached_input"
  | modelCallCount => "model_call_count"
  | modelLatencyMs => "model_latency_ms"
  | embeddingCallCount => "embedding_call_count"
  | embeddingTokens => "embedding_tokens"
  | sandboxMinutes => "sandbox_minutes"
  | browserActionCount => "browser_action_count"
  | toolCallCount => "tool_call_count"
  | storageBytes => "storage_bytes"
  | artifactBytes => "artifact_bytes"
  | externalArtifactDownloadBytes => "external_artifact_download_bytes"
  | egressBytes => "egress_bytes"
  | runCount => "run_count"
  | skillCallCount => "skill_call_count"
  | skillManagementOperationCount => "skill_management_operation_count"
  | triggerInvocationCount => "trigger_invocation_count"
  | connectorInvocationCount => "connector_invocation_count"
  | connectorSyncDocumentCount => "connector_sync_document_count"

structure BillingMeterEvent where
  id : String
  tenantId : String
  workspaceId : String
  userId : String
  runId : Option String := none
  agentId : Option String := none
  skillId : Option String := none
  meterType : MeterType
  quantity : ℚ
  unit : String
  provider : Option String := none
  model : Option String := none
  costEstimate : Option ℚ := none
  createdAt : DateTime
deriving DecidableEq

inductive BillingInvoiceGroupBy where
  | meterType
  | workspaceId
  | userId
  | agentId
  | skillId
deriving DecidableEq, Repr

def normalizeDatetime (value : DateTime) : DateTime :=
  { value with utcOffset := some (value.utcOffset.getD 0) }

def instantOf (value : DateTime) : Time := value.reading - value.utcOffset.getD 0

structure BillingMeterQuery where
  runId : Option String := none
  workspaceId : Option String := none
  userId : Option String := none
  agentId : Option String := none
  skillId : Option String := none
  meterType : Option String := none
deriving DecidableEq, Repr

def BillingMeterQuery.matches? (query : BillingMeterQuery) (meter : BillingMeterEvent) : Bool :=
  query.runId.all (fun id => meter.runId = some id) &&
  query.workspaceId.all (fun id => meter.workspaceId = id) &&
  query.userId.all (fun id => meter.userId = id) &&
  query.agentId.all (fun id => meter.agentId = some id) &&
  query.skillId.all (fun id => meter.skillId = some id) &&
  query.meterType.all fun type => meter.meterType.value = type

structure BillingInvoiceQuery extends BillingMeterQuery where
  periodStart : Option DateTime
  periodEnd : Option DateTime
  groupBy : BillingInvoiceGroupBy
  currency : String
  currency_length : currency.length = 3
  period_ordered : ∀ first ∈ periodStart, ∀ last ∈ periodEnd,
    instantOf first ≤ instantOf last

namespace BillingInvoiceQuery

def inPeriod (query : BillingInvoiceQuery) (createdAt : Time) : Bool :=
  query.periodStart.all (fun first => instantOf first ≤ createdAt) &&
    query.periodEnd.all fun last => createdAt ≤ instantOf last

def selects (query : BillingInvoiceQuery) (meter : BillingMeterEvent) : Bool :=
  query.toBillingMeterQuery.matches? meter && query.inPeriod (instantOf meter.createdAt)

def apply (query : BillingInvoiceQuery) (meters : List BillingMeterEvent) :
    List BillingMeterEvent := meters.filter query.selects

end BillingInvoiceQuery

structure LineKey where
  groupValue : Option String
  meterType : MeterType
  unit : String
  provider : Option String
  model : Option String
deriving DecidableEq

structure BillingInvoiceLine where
  groupBy : BillingInvoiceGroupBy
  key : LineKey
  quantity : ℚ
  eventCount : Nat
  costEstimate : Option ℚ
  unpricedEventCount : Nat
deriving DecidableEq

structure BillingInvoice where
  tenantId : String
  periodStart : Option DateTime
  periodEnd : Option DateTime
  currency : String
  groupBy : BillingInvoiceGroupBy
  meterEventCount : Nat
  unpricedEventCount : Nat
  totalCostEstimate : Option ℚ
  lines : List BillingInvoiceLine
deriving DecidableEq

namespace BillingInvoiceService

def groupValue (meter : BillingMeterEvent) : BillingInvoiceGroupBy → Option String
  | .meterType => some meter.meterType.value
  | .workspaceId => some meter.workspaceId
  | .userId => some meter.userId
  | .agentId => meter.agentId
  | .skillId => meter.skillId

def lineKey (groupBy : BillingInvoiceGroupBy) (meter : BillingMeterEvent) : LineKey where
  groupValue := groupValue meter groupBy
  meterType := meter.meterType
  unit := meter.unit
  provider := meter.provider
  model := meter.model

def sumCosts (costs : List ℚ) : Option ℚ :=
  if costs = [] then none else some (roundDecimals 10 costs.sum)

abbrev Buckets := Table BillingInvoiceLine.key

def emptyBucket (groupBy : BillingInvoiceGroupBy) (key : LineKey) : BillingInvoiceLine :=
  ⟨groupBy, key, 0, 0, none, 0⟩

def addMeter (bucket : BillingInvoiceLine) (meter : BillingMeterEvent) : BillingInvoiceLine :=
  { bucket with
    quantity := bucket.quantity + meter.quantity
    eventCount := bucket.eventCount + 1
    costEstimate :=
      match meter.costEstimate with
      | none => bucket.costEstimate
      | some cost => some (bucket.costEstimate.getD 0 + cost)
    unpricedEventCount := bucket.unpricedEventCount + if meter.costEstimate = none then 1 else 0 }

def countMeter (groupBy : BillingInvoiceGroupBy) (buckets : Buckets) (meter : BillingMeterEvent) :
    Buckets :=
  let key := lineKey groupBy meter
  buckets.put (addMeter ((buckets.get? key).getD (emptyBucket groupBy key)) meter)

def bucketsOf (groupBy : BillingInvoiceGroupBy) (meters : List BillingMeterEvent) : Buckets :=
  meters.foldl (countMeter groupBy) .empty

def sortKey (key : LineKey) : Bool × List String :=
  (key.groupValue.isNone, [key.groupValue.getD "", key.meterType.value, key.unit,
    key.provider.getD "", key.model.getD ""])

def sortsBefore (a b : BillingInvoiceLine) : Bool :=
  decide ((sortKey a.key).1 < (sortKey b.key).1) ||
    decide ((sortKey a.key).1 = (sortKey b.key).1) &&
      decide ((sortKey a.key).2 ≤ (sortKey b.key).2)

def roundLine (bucket : BillingInvoiceLine) : BillingInvoiceLine :=
  { bucket with
    quantity := roundDecimals 10 bucket.quantity
    costEstimate := sumCosts bucket.costEstimate.toList }

def linesOf (meters : List BillingMeterEvent) (query : BillingInvoiceQuery) :
    List BillingInvoiceLine :=
  ((bucketsOf query.groupBy meters).entries.insertionSort fun a b => sortsBefore a b).map roundLine

def createInvoice (tenantId : String) (meters : List BillingMeterEvent)
    (query : BillingInvoiceQuery) : BillingInvoice :=
  let matchingMeters := query.apply (meters.filter fun meter => meter.tenantId = tenantId)
  let lines := linesOf matchingMeters query
  { tenantId := tenantId
    periodStart := query.periodStart.map normalizeDatetime
    periodEnd := query.periodEnd.map normalizeDatetime
    currency := query.currency
    groupBy := query.groupBy
    meterEventCount := matchingMeters.length
    unpricedEventCount := (lines.map BillingInvoiceLine.unpricedEventCount).sum
    totalCostEstimate := sumCosts (lines.filterMap BillingInvoiceLine.costEstimate)
    lines := lines }

section Lines

variable {groupBy : BillingInvoiceGroupBy} {meters : List BillingMeterEvent} {key : LineKey}

def ofKey (groupBy : BillingInvoiceGroupBy) (key : LineKey) (meters : List BillingMeterEvent) :
    List BillingMeterEvent := meters.filter fun meter => lineKey groupBy meter = key

def lineGrouping (groupBy : BillingInvoiceGroupBy) :
    Grouping BillingInvoiceLine.key BillingMeterEvent where
  of := lineKey groupBy
  start := emptyBucket groupBy
  add := addMeter
  key_start _ := rfl
  key_add _ _ := rfl

theorem get?_bucketsOf (meters : List BillingMeterEvent) :
    (bucketsOf groupBy meters).get? key =
      if ofKey groupBy key meters = [] then none
      else some ((ofKey groupBy key meters).foldl addMeter (emptyBucket groupBy key)) :=
  (lineGrouping groupBy).get?_gather key meters

end Lines

section Amounts

variable {M : Type*} [AddCancelCommMonoid M] {amount : BillingInvoiceLine → M}
  {ofMeter : BillingMeterEvent → M} {groupBy : BillingInvoiceGroupBy}

structure Accrues (groupBy : BillingInvoiceGroupBy) (amount : BillingInvoiceLine → M)
    (ofMeter : BillingMeterEvent → M) : Prop where
  starts : ∀ key, amount (emptyBucket groupBy key) = 0
  adds : ∀ bucket meter, amount (addMeter bucket meter) = amount bucket + ofMeter meter

theorem quantity_accrues : Accrues groupBy BillingInvoiceLine.quantity BillingMeterEvent.quantity :=
  ⟨fun _ => rfl, fun _ _ => rfl⟩

theorem eventCount_accrues : Accrues groupBy BillingInvoiceLine.eventCount fun _ => 1 :=
  ⟨fun _ => rfl, fun _ _ => rfl⟩

theorem unpricedEventCount_accrues : Accrues groupBy BillingInvoiceLine.unpricedEventCount
    fun meter => if meter.costEstimate = none then 1 else 0 :=
  ⟨fun _ => rfl, fun _ _ => rfl⟩

theorem costEstimate_accrues : Accrues groupBy (fun line => line.costEstimate.getD 0)
    fun meter => meter.costEstimate.getD 0 := by
  refine ⟨fun _ => rfl, fun bucket meter => ?_⟩
  cases priced : meter.costEstimate <;> simp [addMeter, priced]

theorem Accrues.foldl (accrues : Accrues groupBy amount ofMeter) (bucket : BillingInvoiceLine)
    (meters : List BillingMeterEvent) :
    amount (meters.foldl addMeter bucket) = amount bucket + (meters.map ofMeter).sum :=
  (lineGrouping groupBy).amount_foldl accrues.adds bucket meters

theorem Accrues.bucket (accrues : Accrues groupBy amount ofMeter) (meters : List BillingMeterEvent)
    (key : LineKey) : ((bucketsOf groupBy meters).get? key).elim 0 amount =
      ((ofKey groupBy key meters).map ofMeter).sum := by
  rw [get?_bucketsOf]
  split
  · next none_of_key => simp [none_of_key]
  · rw [Option.elim_some, accrues.foldl, accrues.starts, zero_add]

theorem Accrues.total (accrues : Accrues groupBy amount ofMeter) (meters : List BillingMeterEvent) :
    ((bucketsOf groupBy meters).entries.map amount).sum = (meters.map ofMeter).sum :=
  (lineGrouping groupBy).sum_gather accrues.starts accrues.adds meters

end Amounts

section Rounding

variable {meters : List BillingMeterEvent} {query : BillingInvoiceQuery} {key : LineKey}

theorem sumCosts_getD (costs : List ℚ) : (sumCosts costs).getD 0 = roundDecimals 10 costs.sum := by
  unfold sumCosts
  split
  · next empty => simp [empty, roundDecimals_zero]
  · rfl

theorem roundLine_cost (bucket : BillingInvoiceLine) :
    (roundLine bucket).costEstimate.getD 0 = roundDecimals 10 (bucket.costEstimate.getD 0) := by
  unfold roundLine
  rw [sumCosts_getD]
  cases bucket.costEstimate <;> simp

def lineAmount {M : Type*} [AddCommMonoid M] (amount : BillingInvoiceLine → M)
    (lines : List BillingInvoiceLine) (key : LineKey) : M :=
  ((lines.filter fun line => line.key = key).map amount).sum

theorem linesOf_perm (meters : List BillingMeterEvent) (query : BillingInvoiceQuery) :
    (linesOf meters query).Perm ((bucketsOf query.groupBy meters).entries.map roundLine) :=
  (List.perm_insertionSort _ _).map roundLine

theorem lineAmount_linesOf {M : Type*} [AddCommMonoid M] (amount : BillingInvoiceLine → M) :
    lineAmount amount (linesOf meters query) key =
      ((bucketsOf query.groupBy meters).get? key).elim 0 fun bucket => amount (roundLine bucket) := by
  have same_key : ((bucketsOf query.groupBy meters).entries.map roundLine).filter
      (fun line => line.key = key) =
      ((bucketsOf query.groupBy meters).get? key).toList.map roundLine := by
    rw [List.filter_map, ← Table.filter_key]
    rfl
  unfold lineAmount
  rw [(((linesOf_perm meters query).filter _).map amount).sum_eq, same_key]
  cases (bucketsOf query.groupBy meters).get? key <;> simp

theorem lineQuantity_linesOf :
    lineAmount BillingInvoiceLine.quantity (linesOf meters query) key =
      roundDecimals 10 ((ofKey query.groupBy key meters).map BillingMeterEvent.quantity).sum := by
  rw [lineAmount_linesOf, ← quantity_accrues.bucket]
  cases (bucketsOf query.groupBy meters).get? key with
  | none => exact (roundDecimals_zero 10).symm
  | some bucket => rfl

theorem lineCost_linesOf :
    lineAmount (fun line => line.costEstimate.getD 0) (linesOf meters query) key =
      roundDecimals 10
        ((ofKey query.groupBy key meters).map fun meter => meter.costEstimate.getD 0).sum := by
  rw [lineAmount_linesOf, ← costEstimate_accrues.bucket]
  cases (bucketsOf query.groupBy meters).get? key with
  | none => exact (roundDecimals_zero 10).symm
  | some bucket => exact roundLine_cost bucket

theorem lineCount_linesOf :
    lineAmount BillingInvoiceLine.eventCount (linesOf meters query) key =
      ((ofKey query.groupBy key meters).map fun _ => 1).sum := by
  rw [lineAmount_linesOf, ← eventCount_accrues.bucket]
  rfl

theorem unpriced_linesOf : ((linesOf meters query).map BillingInvoiceLine.unpricedEventCount).sum =
    (meters.map fun meter => if meter.costEstimate = none then 1 else 0).sum := by
  rw [((linesOf_perm meters query).map _).sum_eq, List.map_map,
    ← (@unpricedEventCount_accrues query.groupBy).total meters]
  rfl

theorem sum_filterMap_cost (lines : List BillingInvoiceLine) :
    (lines.filterMap BillingInvoiceLine.costEstimate).sum =
      (lines.map fun line => line.costEstimate.getD 0).sum := by
  induction lines with
  | nil => rfl
  | cons line lines ih => cases priced : line.costEstimate <;> simp [priced, ih]

theorem total_linesOf (whole : ∀ meter ∈ meters, HasDecimals 10 (meter.costEstimate.getD 0)) :
    (sumCosts ((linesOf meters query).filterMap BillingInvoiceLine.costEstimate)).getD 0 =
      (meters.map fun meter => meter.costEstimate.getD 0).sum := by
  have unrounded : ∀ bucket ∈ (bucketsOf query.groupBy meters).entries,
      (roundLine bucket).costEstimate.getD 0 = bucket.costEstimate.getD 0 := by
    intro bucket member
    have held := (@costEstimate_accrues query.groupBy).bucket meters bucket.key
    rw [Table.get?_of_mem member, Option.elim_some] at held
    rw [roundLine_cost, held]
    refine HasDecimals.round_eq (HasDecimals.sum fun cost present => ?_)
    obtain ⟨meter, of_key, rfl⟩ := List.mem_map.mp present
    exact whole meter (List.mem_of_mem_filter of_key)
  have lines_total : ((linesOf meters query).filterMap BillingInvoiceLine.costEstimate).sum =
      (meters.map fun meter => meter.costEstimate.getD 0).sum := by
    rw [sum_filterMap_cost, ((linesOf_perm meters query).map _).sum_eq, List.map_map,
      ← (@costEstimate_accrues query.groupBy).total meters]
    exact congrArg List.sum (List.map_congr_left unrounded)
  rw [sumCosts_getD, lines_total]
  refine HasDecimals.round_eq (HasDecimals.sum fun cost present => ?_)
  obtain ⟨meter, member, rfl⟩ := List.mem_map.mp present
  exact whole meter member

end Rounding

end BillingInvoiceService

section Periods

open BillingInvoiceService

def BillingInvoiceQuery.between (query : BillingInvoiceQuery) (first last : DateTime)
    (ordered : instantOf first ≤ instantOf last) : BillingInvoiceQuery :=
  { query with
    periodStart := some first
    periodEnd := some last
    period_ordered := by
      rintro _ ⟨⟩ _ ⟨⟩
      exact ordered }

variable {query : BillingInvoiceQuery} {a b c : DateTime} {meter : BillingMeterEvent}

theorem selects_between {first last : DateTime} (ordered : instantOf first ≤ instantOf last) :
    (query.between first last ordered).selects meter = true ↔
      query.toBillingMeterQuery.matches? meter = true ∧
      instantOf first ≤ instantOf meter.createdAt ∧ instantOf meter.createdAt ≤ instantOf last := by
  simp [BillingInvoiceQuery.selects, BillingInvoiceQuery.inPeriod, BillingInvoiceQuery.between]

theorem sum_filter {M : Type*} [AddCommMonoid M] (selected : BillingMeterEvent → Bool)
    (amount : BillingMeterEvent → M) (meters : List BillingMeterEvent) :
    ((meters.filter selected).map amount).sum =
      (meters.map fun meter => if selected meter then amount meter else 0).sum := by
  induction meters with
  | nil => rfl
  | cons meter rest ih => by_cases taken : selected meter = true <;> simp [taken, ih]

theorem sum_adjacent {M : Type*} [AddCommMonoid M] (ab : instantOf a ≤ instantOf b)
    (bc : instantOf b ≤ instantOf c) (amount : BillingMeterEvent → M)
    (meters : List BillingMeterEvent) :
    (((query.between a b ab).apply meters).map amount).sum +
        (((query.between b c bc).apply meters).map amount).sum =
      (((query.between a c (ab.trans bc)).apply meters).map amount).sum +
        (((query.between b b le_rfl).apply meters).map amount).sum := by
  unfold BillingInvoiceQuery.apply
  simp only [sum_filter, ← List.sum_map_add]
  congr 1
  refine List.map_congr_left fun meter _ => ?_
  simp only [selects_between]
  by_cases mine : query.toBillingMeterQuery.matches? meter = true
  · simp only [mine, true_and]
    rcases lt_trichotomy (instantOf meter.createdAt) (instantOf b) with before | shared | after
    · have ends : instantOf meter.createdAt ≤ instantOf c := before.le.trans bc
      simp [before.le, before.not_ge, ends]
    · simp [shared, ab, bc]
    · have starts : instantOf a ≤ instantOf meter.createdAt := ab.trans after.le
      simp [after.le, after.not_ge, starts]
  · simp [mine]

theorem sum_adjacent_ofKey {M : Type*} [AddCommMonoid M] (ab : instantOf a ≤ instantOf b)
    (bc : instantOf b ≤ instantOf c) (amount : BillingMeterEvent → M)
    (meters : List BillingMeterEvent) (key : LineKey) :
    ((ofKey query.groupBy key ((query.between a b ab).apply meters)).map amount).sum +
        ((ofKey query.groupBy key ((query.between b c bc).apply meters)).map amount).sum =
      ((ofKey query.groupBy key ((query.between a c (ab.trans bc)).apply meters)).map amount).sum +
        ((ofKey query.groupBy key ((query.between b b le_rfl).apply meters)).map amount).sum := by
  unfold ofKey
  rw [sum_filter, sum_filter, sum_filter, sum_filter]
  exact sum_adjacent ab bc _ meters

theorem rounded_adjacent {w x y z : ℚ} (exact_sum : w + x = y + z) :
    |roundDecimals 10 w + roundDecimals 10 x - (roundDecimals 10 y + roundDecimals 10 z)| ≤
      2 / 10 ^ 10 := by
  have hw := abs_le.mp (roundDecimals_near 10 w)
  have hx := abs_le.mp (roundDecimals_near 10 x)
  have hy := abs_le.mp (roundDecimals_near 10 y)
  have hz := abs_le.mp (roundDecimals_near 10 z)
  have halves : (2 : ℚ) / 10 ^ 10 = 4 * (1 / 2 / 10 ^ 10) := by norm_num
  rw [halves, abs_le]
  constructor <;> linarith

theorem rounded_adjacent_decimals {w x y z : List ℚ} (exact_sum : w.sum + x.sum = y.sum + z.sum)
    (whole : ∀ amounts ∈ [w, x, y, z], ∀ amount ∈ amounts, HasDecimals 10 amount) :
    roundDecimals 10 w.sum + roundDecimals 10 x.sum =
      roundDecimals 10 y.sum + roundDecimals 10 z.sum := by
  have unrounded (amounts : List ℚ) (one : amounts ∈ [w, x, y, z]) :
      roundDecimals 10 amounts.sum = amounts.sum :=
    (HasDecimals.sum (whole amounts one)).round_eq
  rw [unrounded w (by simp), unrounded x (by simp), unrounded y (by simp), unrounded z (by simp)]
  exact exact_sum

theorem selects_adjacent (ab : instantOf a < instantOf b) (bc : instantOf b < instantOf c)
    (meter : BillingMeterEvent) :
    ((query.between a c (ab.trans bc).le).selects meter = true ↔
      (query.between a b ab.le).selects meter = true ∨
      (query.between b c bc.le).selects meter = true) ∧
    ((query.between a b ab.le).selects meter = true ∧
      (query.between b c bc.le).selects meter = true ↔
      (query.between a c (ab.trans bc).le).selects meter = true ∧
      instantOf meter.createdAt = instantOf b) := by
  simp only [selects_between]
  rcases lt_trichotomy (instantOf meter.createdAt) (instantOf b) with before | at_b | after
  · have ends : instantOf meter.createdAt ≤ instantOf c := (before.trans bc).le
    simp [before.le, before.not_ge, before.ne, ends]
  · simp [at_b, ab.le, bc.le]
  · have starts : instantOf a ≤ instantOf meter.createdAt := (ab.trans after).le
    simp [after.le, after.not_ge, after.ne', starts]

theorem length_eq_sum (meters : List BillingMeterEvent) :
    meters.length = (meters.map fun _ => 1).sum := by
  simp

theorem decimals_apply {amount : BillingMeterEvent → ℚ} {meters : List BillingMeterEvent}
    (whole : ∀ meter ∈ meters, HasDecimals 10 (amount meter)) (query : BillingInvoiceQuery) :
    ∀ meter ∈ query.apply meters, HasDecimals 10 (amount meter) :=
  fun meter member => whole meter (List.mem_of_mem_filter member)

theorem decimals_ofKey {amount : BillingMeterEvent → ℚ} {meters : List BillingMeterEvent}
    (whole : ∀ meter ∈ meters, HasDecimals 10 (amount meter)) (groupBy : BillingInvoiceGroupBy)
    (key : LineKey) : ∀ x ∈ (ofKey groupBy key meters).map amount, HasDecimals 10 x := by
  intro x present
  obtain ⟨meter, of_key, rfl⟩ := List.mem_map.mp present
  exact whole meter (List.mem_of_mem_filter of_key)

def noonMeter : BillingMeterEvent where
  id := "meter"
  tenantId := "acme"
  workspaceId := "sales"
  userId := "user"
  meterType := .modelCallCount
  quantity := 1
  unit := "call"
  costEstimate := some (1 / 50)
  createdAt := .utc 12

def anyUsage : BillingInvoiceQuery := ⟨{}, none, none, .meterType, "USD", rfl, by simp⟩

end Periods

end Taroai.Billing
