import Taroai.Billing.Invoices

/-! `BillingAnalyticsService.summarize`, and what an invoice and a summary keep of the meters they
are made from. -/

namespace Taroai.Billing

structure BillingSummaryQuery extends BillingMeterQuery where
  groupBy : BillingInvoiceGroupBy
deriving DecidableEq, Repr

def BillingSummaryQuery.apply (query : BillingSummaryQuery) (meters : List BillingMeterEvent) :
    List BillingMeterEvent := meters.filter query.toBillingMeterQuery.matches?

structure SummaryKey where
  groupValue : Option String
  meterType : MeterType
  unit : String
deriving DecidableEq

structure BillingSummaryBucket where
  groupBy : BillingInvoiceGroupBy
  key : SummaryKey
  quantity : ℚ
  eventCount : Nat
  costEstimate : Option ℚ
deriving DecidableEq

namespace BillingAnalyticsService

open BillingInvoiceService (groupValue)

def summaryKey (groupBy : BillingInvoiceGroupBy) (meter : BillingMeterEvent) : SummaryKey where
  groupValue := groupValue meter groupBy
  meterType := meter.meterType
  unit := meter.unit

def addMeter (bucket : BillingSummaryBucket) (meter : BillingMeterEvent) : BillingSummaryBucket :=
  { bucket with
    quantity := bucket.quantity + meter.quantity
    eventCount := bucket.eventCount + 1
    costEstimate :=
      match meter.costEstimate with
      | none => bucket.costEstimate
      | some cost => some (bucket.costEstimate.getD 0 + cost) }

def bucketGrouping (groupBy : BillingInvoiceGroupBy) :
    Grouping BillingSummaryBucket.key BillingMeterEvent where
  of := summaryKey groupBy
  start key := ⟨groupBy, key, 0, 0, none⟩
  add := addMeter
  key_start _ := rfl
  key_add _ _ := rfl

def sortKey (key : SummaryKey) : Bool × List String :=
  (key.groupValue.isNone, [key.groupValue.getD "", key.meterType.value, key.unit])

def sortsBefore (a b : BillingSummaryBucket) : Bool :=
  decide ((sortKey a.key).1 < (sortKey b.key).1) ||
    decide ((sortKey a.key).1 = (sortKey b.key).1) &&
      decide ((sortKey a.key).2 ≤ (sortKey b.key).2)

def roundBucket (bucket : BillingSummaryBucket) : BillingSummaryBucket :=
  { bucket with
    quantity := roundDecimals 10 bucket.quantity
    costEstimate := bucket.costEstimate.map (roundDecimals 10) }

def summarize (meters : List BillingMeterEvent) (query : BillingSummaryQuery) :
    List BillingSummaryBucket :=
  (((bucketGrouping query.groupBy).gather (query.apply meters)).entries.insertionSort
    fun a b => sortsBefore a b).map roundBucket

end BillingAnalyticsService

section Rounded

variable {β κ : Type*} {key : β → κ} [DecidableEq κ] (g : Grouping key BillingMeterEvent)
  {amount : β → ℚ} {ofMeter : BillingMeterEvent → ℚ}

theorem rounded_near (starts : ∀ k, amount (g.start k) = 0)
    (adds : ∀ b meter, amount (g.add b meter) = amount b + ofMeter meter)
    (meters : List BillingMeterEvent) :
    |((g.gather meters).entries.map fun b => roundDecimals 10 (amount b)).sum -
        (meters.map ofMeter).sum| ≤ (g.gather meters).entries.length * (1 / 2 / 10 ^ 10) := by
  have near := roundDecimals_sum_near 10 amount (g.gather meters).entries
  rwa [g.sum_gather starts adds] at near

theorem rounded_exact (starts : ∀ k, amount (g.start k) = 0)
    (adds : ∀ b meter, amount (g.add b meter) = amount b + ofMeter meter)
    {meters : List BillingMeterEvent} (whole : ∀ meter ∈ meters, HasDecimals 10 (ofMeter meter)) :
    ((g.gather meters).entries.map fun b => roundDecimals 10 (amount b)).sum =
      (meters.map ofMeter).sum := by
  rw [← g.sum_gather starts adds]
  congr 1
  refine List.map_congr_left fun b among => ?_
  rw [g.amount_gather starts adds among]
  refine HasDecimals.round_eq (HasDecimals.sum fun x listed => ?_)
  obtain ⟨meter, of_key, rfl⟩ := List.mem_map.mp listed
  exact whole meter (List.mem_of_mem_filter of_key)

end Rounded

namespace BillingAnalyticsService

variable (meters : List BillingMeterEvent) (query : BillingSummaryQuery)

theorem summarize_perm : (summarize meters query).Perm
    (((bucketGrouping query.groupBy).gather (query.apply meters)).entries.map roundBucket) :=
  (List.perm_insertionSort _ _).map roundBucket

theorem cost_addMeter (bucket : BillingSummaryBucket) (meter : BillingMeterEvent) :
    (addMeter bucket meter).costEstimate.getD 0 =
      bucket.costEstimate.getD 0 + meter.costEstimate.getD 0 := by
  cases priced : meter.costEstimate <;> simp [addMeter, priced]

theorem roundBucket_cost (bucket : BillingSummaryBucket) :
    (roundBucket bucket).costEstimate.getD 0 = roundDecimals 10 (bucket.costEstimate.getD 0) := by
  cases priced : bucket.costEstimate <;> simp [roundBucket, priced, roundDecimals_zero]

theorem eventCount_summarize :
    ((summarize meters query).map BillingSummaryBucket.eventCount).sum =
      (query.apply meters).length := by
  rw [((summarize_perm meters query).map _).sum_eq, List.map_map, length_eq_sum]
  exact (bucketGrouping query.groupBy).sum_gather (fun _ => rfl) (fun _ _ => rfl) _

theorem quantity_summarize : ((summarize meters query).map BillingSummaryBucket.quantity).sum =
    (((bucketGrouping query.groupBy).gather (query.apply meters)).entries.map
      fun bucket => roundDecimals 10 bucket.quantity).sum := by
  rw [((summarize_perm meters query).map _).sum_eq, List.map_map]
  rfl

theorem cost_summarize :
    ((summarize meters query).map fun bucket => bucket.costEstimate.getD 0).sum =
    (((bucketGrouping query.groupBy).gather (query.apply meters)).entries.map
      fun bucket => roundDecimals 10 (bucket.costEstimate.getD 0)).sum := by
  rw [((summarize_perm meters query).map _).sum_eq, List.map_map]
  exact congrArg List.sum (List.map_congr_left fun bucket _ => roundBucket_cost bucket)

theorem length_summarize : (summarize meters query).length =
    ((bucketGrouping query.groupBy).gather (query.apply meters)).entries.length := by
  rw [(summarize_perm meters query).length_eq, List.length_map]

end BillingAnalyticsService

namespace BillingInvoiceService

variable (meters : List BillingMeterEvent) (query : BillingInvoiceQuery)

theorem eventCount_linesOf :
    ((linesOf meters query).map BillingInvoiceLine.eventCount).sum = meters.length := by
  rw [((linesOf_perm meters query).map _).sum_eq, List.map_map, length_eq_sum]
  exact (@eventCount_accrues query.groupBy).total meters

theorem quantity_linesOf : ((linesOf meters query).map BillingInvoiceLine.quantity).sum =
    ((bucketsOf query.groupBy meters).entries.map
      fun bucket => roundDecimals 10 bucket.quantity).sum := by
  rw [((linesOf_perm meters query).map _).sum_eq, List.map_map]
  rfl

theorem cost_linesOf : ((linesOf meters query).map fun line => line.costEstimate.getD 0).sum =
    ((bucketsOf query.groupBy meters).entries.map
      fun bucket => roundDecimals 10 (bucket.costEstimate.getD 0)).sum := by
  rw [((linesOf_perm meters query).map _).sum_eq, List.map_map]
  exact congrArg List.sum (List.map_congr_left fun bucket _ => roundLine_cost bucket)

theorem length_linesOf :
    (linesOf meters query).length = (bucketsOf query.groupBy meters).entries.length := by
  rw [(linesOf_perm meters query).length_eq, List.length_map]

/-- A line's cost, where it has one, has no more than ten decimals, so their sum is not rounded. -/
theorem sumCosts_linesOf :
    sumCosts ((linesOf meters query).filterMap BillingInvoiceLine.costEstimate) =
      if (linesOf meters query).filterMap BillingInvoiceLine.costEstimate = [] then none
      else some ((linesOf meters query).filterMap BillingInvoiceLine.costEstimate).sum := by
  unfold sumCosts
  split_ifs
  · rfl
  · refine congrArg some (HasDecimals.round_eq (HasDecimals.sum fun cost listed => ?_))
    obtain ⟨line, among, priced⟩ := List.mem_filterMap.mp listed
    obtain ⟨bucket, -, rfl⟩ := List.mem_map.mp ((linesOf_perm meters query).mem_iff.mp among)
    have same : (roundLine bucket).costEstimate.getD 0 = cost := by rw [priced]; rfl
    rw [← same, roundLine_cost]
    exact hasDecimals_round 10 _

theorem mem_linesOf {line : BillingInvoiceLine} : line ∈ linesOf meters query ↔
    ofKey query.groupBy line.key meters ≠ [] ∧ line = roundLine
      ((ofKey query.groupBy line.key meters).foldl addMeter (emptyBucket query.groupBy line.key)) := by
  rw [(linesOf_perm meters query).mem_iff, List.mem_map]
  constructor
  · rintro ⟨bucket, among, rfl⟩
    have held := (lineGrouping query.groupBy).mem_gather.mp among
    exact ⟨held.1, congrArg roundLine held.2⟩
  · rintro ⟨some_meter, same⟩
    have found := @get?_bucketsOf query.groupBy line.key meters
    rw [if_neg some_meter] at found
    exact ⟨_, Table.mem_of_get? found, same.symm⟩

theorem keys_linesOf : ((linesOf meters query).map BillingInvoiceLine.key).Nodup := by
  rw [((linesOf_perm meters query).map _).nodup_iff, List.map_map]
  exact (bucketsOf query.groupBy meters).nodup

section Order

variable {meters others : List BillingMeterEvent}

def tupleLe (a b : Bool × List String) : Prop := a.1 < b.1 ∨ a.1 = b.1 ∧ a.2 ≤ b.2

theorem tupleLe_total (a b : Bool × List String) : tupleLe a b ∨ tupleLe b a := by
  obtain ⟨p, xs⟩ := a
  obtain ⟨q, ys⟩ := b
  have second := le_total xs ys
  cases p <;> cases q <;> simp [tupleLe]
  all_goals exact second

theorem tupleLe_trans {a b c : Bool × List String} (ab : tupleLe a b) (bc : tupleLe b c) :
    tupleLe a c := by
  obtain ⟨p, xs⟩ := a
  obtain ⟨q, ys⟩ := b
  obtain ⟨r, zs⟩ := c
  have second : xs ≤ ys → ys ≤ zs → xs ≤ zs := le_trans
  revert ab bc
  cases p <;> cases q <;> cases r <;> simp +contextual [tupleLe]
  all_goals exact second

theorem tupleLe_antisymm {a b : Bool × List String} (ab : tupleLe a b) (ba : tupleLe b a) : a = b := by
  obtain ⟨p, xs⟩ := a
  obtain ⟨q, ys⟩ := b
  have second : xs ≤ ys → ys ≤ xs → xs = ys := le_antisymm
  revert ab ba
  cases p <;> cases q <;> simp [tupleLe]
  all_goals exact second

theorem sortsBefore_iff {a b : BillingInvoiceLine} :
    sortsBefore a b = true ↔ tupleLe (sortKey a.key) (sortKey b.key) := by
  simp [sortsBefore, tupleLe]

instance : Std.Total fun a b : BillingInvoiceLine => sortsBefore a b = true :=
  ⟨fun a b => by simpa only [sortsBefore_iff] using tupleLe_total _ _⟩

instance : IsTrans BillingInvoiceLine fun a b => sortsBefore a b = true :=
  ⟨fun a b c ab bc => by
    rw [sortsBefore_iff] at ab bc ⊢
    exact tupleLe_trans ab bc⟩

theorem sumCosts_perm {costs costs' : List ℚ} (reordered : costs.Perm costs') :
    sumCosts costs = sumCosts costs' := by
  unfold sumCosts
  rw [reordered.sum_eq]
  by_cases none_of : costs = []
  · rw [if_pos none_of, if_pos (none_of ▸ reordered).nil_eq.symm]
  · rw [if_neg none_of, if_neg fun none_of' => none_of (none_of' ▸ reordered).eq_nil]

theorem addMeter_comm (bucket : BillingInvoiceLine) (meter other : BillingMeterEvent) :
    addMeter (addMeter bucket meter) other = addMeter (addMeter bucket other) meter := by
  unfold addMeter
  cases meter.costEstimate <;> cases other.costEstimate <;>
    simp [add_comm, add_left_comm]

theorem bucketsOf_perm (groupBy : BillingInvoiceGroupBy) (reordered : meters.Perm others) :
    (bucketsOf groupBy meters).entries.Perm (bucketsOf groupBy others).entries :=
  (lineGrouping groupBy).gather_perm addMeter_comm reordered

theorem linesOf_reordered (query : BillingInvoiceQuery) (reordered : meters.Perm others) :
    (linesOf meters query).Perm (linesOf others query) :=
  (linesOf_perm meters query).trans
    (((bucketsOf_perm query.groupBy reordered).map roundLine).trans (linesOf_perm others query).symm)

def SortedApart (groupBy : BillingInvoiceGroupBy) (meters : List BillingMeterEvent) : Prop :=
  ∀ meter ∈ meters, ∀ other ∈ meters,
    sortKey (lineKey groupBy meter) = sortKey (lineKey groupBy other) →
      lineKey groupBy meter = lineKey groupBy other

theorem key_of_mem_bucketsOf {groupBy : BillingInvoiceGroupBy} {bucket : BillingInvoiceLine}
    (among : bucket ∈ (bucketsOf groupBy meters).entries) :
    ∃ meter ∈ meters, lineKey groupBy meter = bucket.key := by
  have some_meter := ((lineGrouping groupBy).mem_gather.mp among).1
  obtain ⟨meter, of_key⟩ := List.exists_mem_of_ne_nil _ some_meter
  obtain ⟨listed, same⟩ := List.mem_filter.mp of_key
  exact ⟨meter, listed, of_decide_eq_true same⟩

theorem linesOf_eq (query : BillingInvoiceQuery) (apart : SortedApart query.groupBy meters)
    (reordered : meters.Perm others) : linesOf meters query = linesOf others query := by
  unfold linesOf
  congr 1
  have buckets := bucketsOf_perm query.groupBy reordered
  refine List.Perm.eq_of_pairwise (fun a b listed listed' ab ba => ?_)
    (List.pairwise_insertionSort _ _) (List.pairwise_insertionSort _ _)
    ((List.perm_insertionSort _ _).trans (buckets.trans (List.perm_insertionSort _ _).symm))
  rw [List.mem_insertionSort] at listed listed'
  have listed_b := buckets.mem_iff.mpr listed'
  obtain ⟨meter, among, key_a⟩ := key_of_mem_bucketsOf listed
  obtain ⟨other, among', key_b⟩ := key_of_mem_bucketsOf listed_b
  have same : a.key = b.key := by
    rw [← key_a, ← key_b]
    refine apart meter among other among' ?_
    rw [key_a, key_b]
    exact tupleLe_antisymm (sortsBefore_iff.mp ab) (sortsBefore_iff.mp ba)
  exact List.inj_on_of_nodup_map (bucketsOf query.groupBy meters).nodup listed listed_b same

end Order

end BillingInvoiceService

open BillingInvoiceService BillingAnalyticsService

def selectedMeters (tenantId : String) (meters : List BillingMeterEvent)
    (query : BillingInvoiceQuery) : List BillingMeterEvent :=
  query.apply (meters.filter fun meter => meter.tenantId = tenantId)

def periodMeters (tenantId : String) (meters : List BillingMeterEvent)
    (query : BillingInvoiceQuery) : List BillingMeterEvent :=
  meters.filter fun meter => meter.tenantId = tenantId && query.inPeriod (instantOf meter.createdAt)

def summaryQuery (query : BillingInvoiceQuery) : BillingSummaryQuery :=
  ⟨query.toBillingMeterQuery, query.groupBy⟩

theorem apply_periodMeters (tenantId : String) (meters : List BillingMeterEvent)
    (query : BillingInvoiceQuery) :
    (summaryQuery query).apply (periodMeters tenantId meters query) =
      selectedMeters tenantId meters query := by
  unfold BillingSummaryQuery.apply periodMeters selectedMeters BillingInvoiceQuery.apply
  rw [List.filter_filter, List.filter_filter]
  refine List.filter_congr fun meter _ => ?_
  unfold BillingInvoiceQuery.selects summaryQuery
  rw [← Bool.and_assoc, Bool.and_right_comm]

/-- What is left of the selected meters in an invoice and in a summary: the counts in full, the
amounts up to the rounding of each line and bucket. -/
structure Conserved (groupBy : BillingInvoiceGroupBy) (selected : List BillingMeterEvent)
    (invoice : BillingInvoice) (summary : List BillingSummaryBucket) : Prop where
  keys : (invoice.lines.map BillingInvoiceLine.key).Nodup
  line_of : ∀ meter ∈ selected, ∃ line ∈ invoice.lines, line.key = lineKey groupBy meter
  line_counts : ∀ line ∈ invoice.lines,
    line.eventCount = (ofKey groupBy line.key selected).length ∧
    line.unpricedEventCount =
      (ofKey groupBy line.key selected).countP fun meter => meter.costEstimate = none
  selected_events : invoice.meterEventCount = selected.length
  events : (invoice.lines.map BillingInvoiceLine.eventCount).sum = invoice.meterEventCount
  unpriced : (invoice.lines.map BillingInvoiceLine.unpricedEventCount).sum =
    invoice.unpricedEventCount
  total : invoice.totalCostEstimate =
    if invoice.lines.filterMap BillingInvoiceLine.costEstimate = [] then none
    else some (invoice.lines.filterMap BillingInvoiceLine.costEstimate).sum
  quantity : |(invoice.lines.map BillingInvoiceLine.quantity).sum -
      (selected.map BillingMeterEvent.quantity).sum| ≤ invoice.lines.length * (1 / 2 / 10 ^ 10)
  cost : |(invoice.lines.map fun line => line.costEstimate.getD 0).sum -
      (selected.map fun meter => meter.costEstimate.getD 0).sum| ≤
    invoice.lines.length * (1 / 2 / 10 ^ 10)
  summary_events : (summary.map BillingSummaryBucket.eventCount).sum = invoice.meterEventCount
  summary_quantity : |(summary.map BillingSummaryBucket.quantity).sum -
      (selected.map BillingMeterEvent.quantity).sum| ≤ summary.length * (1 / 2 / 10 ^ 10)
  summary_cost : |(summary.map fun bucket => bucket.costEstimate.getD 0).sum -
      (selected.map fun meter => meter.costEstimate.getD 0).sum| ≤
    summary.length * (1 / 2 / 10 ^ 10)
  quantity_exact : (∀ meter ∈ selected, HasDecimals 10 meter.quantity) →
    (invoice.lines.map BillingInvoiceLine.quantity).sum =
        (selected.map BillingMeterEvent.quantity).sum ∧
      (summary.map BillingSummaryBucket.quantity).sum =
        (selected.map BillingMeterEvent.quantity).sum
  cost_exact : (∀ meter ∈ selected, HasDecimals 10 (meter.costEstimate.getD 0)) →
    (invoice.lines.map fun line => line.costEstimate.getD 0).sum =
        (selected.map fun meter => meter.costEstimate.getD 0).sum ∧
      (summary.map fun bucket => bucket.costEstimate.getD 0).sum =
        (selected.map fun meter => meter.costEstimate.getD 0).sum

theorem countP_eq_sum (p : BillingMeterEvent → Prop) [DecidablePred p]
    (meters : List BillingMeterEvent) :
    meters.countP p = (meters.map fun meter => if p meter then 1 else 0).sum := by
  induction meters with
  | nil => rfl
  | cons meter rest ih =>
    rw [List.countP_cons, ih, List.map_cons, List.sum_cons, Nat.add_comm]
    simp only [decide_eq_true_eq]

theorem linesOf_counts {meters : List BillingMeterEvent} {query : BillingInvoiceQuery}
    {line : BillingInvoiceLine} (among : line ∈ linesOf meters query) :
    line.eventCount = (ofKey query.groupBy line.key meters).length ∧
    line.unpricedEventCount =
      (ofKey query.groupBy line.key meters).countP fun meter => meter.costEstimate = none := by
  have held := ((mem_linesOf meters query).mp among).2
  have events := (@eventCount_accrues query.groupBy).foldl
    (emptyBucket query.groupBy line.key) (ofKey query.groupBy line.key meters)
  have unpriced := (@unpricedEventCount_accrues query.groupBy).foldl
    (emptyBucket query.groupBy line.key) (ofKey query.groupBy line.key meters)
  constructor
  · rw [congrArg BillingInvoiceLine.eventCount held, length_eq_sum]
    exact events.trans (Nat.zero_add _)
  · rw [congrArg BillingInvoiceLine.unpricedEventCount held, countP_eq_sum]
    exact unpriced.trans (Nat.zero_add _)

theorem conserved (tenantId : String) (meters : List BillingMeterEvent)
    (query : BillingInvoiceQuery) :
    Conserved query.groupBy (selectedMeters tenantId meters query)
      (createInvoice tenantId meters query)
      (summarize (periodMeters tenantId meters query) (summaryQuery query)) := by
  have summarised := apply_periodMeters tenantId meters query
  have lines_eq : (createInvoice tenantId meters query).lines =
      linesOf (selectedMeters tenantId meters query) query := rfl
  have quantity_start := (@quantity_accrues query.groupBy).starts
  have quantity_add := (@quantity_accrues query.groupBy).adds
  have cost_start := (@costEstimate_accrues query.groupBy).starts
  have cost_add := (@costEstimate_accrues query.groupBy).adds
  constructor
  · exact keys_linesOf _ _
  · intro meter among
    obtain ⟨bucket, listed, same⟩ := (lineGrouping query.groupBy).key_mem_gather among
    exact ⟨roundLine bucket, (linesOf_perm _ _).mem_iff.mpr (List.mem_map_of_mem listed), same⟩
  · exact fun line among => linesOf_counts among
  · rfl
  · exact eventCount_linesOf _ _
  · rfl
  · exact sumCosts_linesOf _ _
  · rw [lines_eq, quantity_linesOf, length_linesOf]
    exact rounded_near (lineGrouping query.groupBy) quantity_start quantity_add _
  · rw [lines_eq, cost_linesOf, length_linesOf]
    exact rounded_near (lineGrouping query.groupBy) cost_start cost_add _
  · rw [eventCount_summarize, summarised]
    rfl
  · rw [quantity_summarize, length_summarize, summarised]
    exact rounded_near (bucketGrouping query.groupBy) (fun _ => rfl) (fun _ _ => rfl) _
  · rw [cost_summarize, length_summarize, summarised]
    exact rounded_near (bucketGrouping query.groupBy) (fun _ => rfl) cost_addMeter _
  · intro whole
    rw [lines_eq, quantity_linesOf, quantity_summarize, summarised]
    exact ⟨rounded_exact (lineGrouping query.groupBy) quantity_start quantity_add whole,
      rounded_exact (bucketGrouping query.groupBy) (fun _ => rfl) (fun _ _ => rfl) whole⟩
  · intro whole
    rw [lines_eq, cost_linesOf, cost_summarize, summarised]
    exact ⟨rounded_exact (lineGrouping query.groupBy) cost_start cost_add whole,
      rounded_exact (bucketGrouping query.groupBy) (fun _ => rfl) cost_addMeter whole⟩

/-- An invoice and a summary keep the selected meters up to the rounding of their amounts, and the
order of the meters matters to no more than the order of lines with one sort key. -/
theorem invoice_conserves (tenantId : String) (meters : List BillingMeterEvent)
    (query : BillingInvoiceQuery) :
    Conserved query.groupBy (selectedMeters tenantId meters query)
      (createInvoice tenantId meters query)
      (summarize (periodMeters tenantId meters query) (summaryQuery query)) ∧
    ∀ others, meters.Perm others →
      (createInvoice tenantId meters query).lines.Perm (createInvoice tenantId others query).lines ∧
      { createInvoice tenantId meters query with
        lines := (createInvoice tenantId others query).lines } = createInvoice tenantId others query ∧
      (SortedApart query.groupBy (selectedMeters tenantId meters query) →
        createInvoice tenantId meters query = createInvoice tenantId others query) := by
  refine ⟨conserved tenantId meters query, fun others reordered => ?_⟩
  have selected : (selectedMeters tenantId meters query).Perm
      (selectedMeters tenantId others query) := (reordered.filter _).filter _
  have lines := linesOf_reordered query selected
  have counted : (createInvoice tenantId meters query).meterEventCount =
      (createInvoice tenantId others query).meterEventCount := selected.length_eq
  have unpriced : (createInvoice tenantId meters query).unpricedEventCount =
      (createInvoice tenantId others query).unpricedEventCount := (lines.map _).sum_eq
  have total : (createInvoice tenantId meters query).totalCostEstimate =
      (createInvoice tenantId others query).totalCostEstimate :=
    sumCosts_perm (lines.filterMap BillingInvoiceLine.costEstimate)
  have same : { createInvoice tenantId meters query with
      lines := (createInvoice tenantId others query).lines } = createInvoice tenantId others query := by
    dsimp only
    rw [counted, unpriced, total]
    rfl
  refine ⟨lines, same, fun apart => ?_⟩
  have lines_same : (createInvoice tenantId meters query).lines =
      (createInvoice tenantId others query).lines := linesOf_eq query apart selected
  rw [← same, ← lines_same]

/-- Two meters of half a unit of the tenth decimal, one without a provider and one with none by
name. -/
def halfUnit (id : String) (provider : Option String) : BillingMeterEvent :=
  { noonMeter with id := id, provider := provider, quantity := 5 / 10 ^ 11 }

theorem rounded_and_reordered :
    ∃ (meters others : List BillingMeterEvent) (query : BillingInvoiceQuery),
      meters.Perm others ∧
      ((createInvoice "acme" meters query).lines.map BillingInvoiceLine.quantity).sum ≠
        ((selectedMeters "acme" meters query).map BillingMeterEvent.quantity).sum ∧
      ((createInvoice "acme" meters query).lines.map BillingInvoiceLine.quantity).sum ≠
        ((summarize (periodMeters "acme" meters query) (summaryQuery query)).map
          BillingSummaryBucket.quantity).sum ∧
      createInvoice "acme" meters query ≠ createInvoice "acme" others query :=
  ⟨[halfUnit "a" none, halfUnit "b" (some "")], [halfUnit "b" (some ""), halfUnit "a" none], anyUsage,
    List.Perm.swap _ _ _, by decide +kernel, by decide +kernel, by decide +kernel⟩

end Taroai.Billing
