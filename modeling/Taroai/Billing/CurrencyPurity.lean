import Mathlib
import Taroai.Billing.Pricing
import Taroai.Billing.Summary

/-! The currency of an invoice against the currencies of the rules that its meters were priced by.
A meter is priced once, when it is recorded, by the rules in force then; a meter that is recorded
without an estimate has none in force. -/

namespace Taroai.Billing

open BillingInvoiceService BillingPricingService

structure PricedMeter where
  meter : BillingMeterEvent
  rules : List BillingPricingRule

/-- What `_estimate_billing_cost` asks for a meter. -/
def priceQuery (meter : BillingMeterEvent) : PriceQuery where
  meterType := meter.meterType.value
  unit := meter.unit
  provider := meter.provider
  model := meter.model
  tenantId := some meter.tenantId
  workspaceId := some meter.workspaceId
  skillId := meter.skillId

namespace PricedMeter

def rule? (priced : PricedMeter) : Option BillingPricingRule :=
  matchRule priced.rules (priceQuery priced.meter)

/-- `record_billing_meter`, with the estimate. -/
def record (priced : PricedMeter) : BillingMeterEvent :=
  { priced.meter with
    costEstimate := estimateCost priced.rules (priceQuery priced.meter) priced.meter.quantity }

def costIn (currency : String) (priced : PricedMeter) : Option ℚ :=
  (priced.rule?.filter fun rule => rule.currency = currency).map fun rule =>
    costBy rule priced.meter.quantity

end PricedMeter

def selectedPriced (tenantId : String) (priced : List PricedMeter) (query : BillingInvoiceQuery) :
    List PricedMeter :=
  priced.filter fun one => one.meter.tenantId = tenantId && query.selects one.meter

def invoiceOf (tenantId : String) (priced : List PricedMeter) (query : BillingInvoiceQuery) :
    BillingInvoice := createInvoice tenantId (priced.map PricedMeter.record) query

/-- An invoice sums up costs of its own currency only, and what only rules of other currencies
match is unpriced. -/
structure CurrencyPure (tenantId : String) (priced : List PricedMeter)
    (query : BillingInvoiceQuery) : Prop where
  cost_from : ∀ one ∈ selectedPriced tenantId priced query, ∀ cost,
    one.record.costEstimate = some cost →
      ∃ rule ∈ one.rules, rule.currency = query.currency ∧ one.rule? = some rule ∧
        cost = costBy rule one.meter.quantity
  unpriced : ∀ one ∈ selectedPriced tenantId priced query,
    (∀ rule ∈ one.rules, rule.matches? (priceQuery one.meter) = true →
      rule.currency ≠ query.currency) → one.record.costEstimate = none
  lines : ∀ line ∈ (invoiceOf tenantId priced query).lines, line.costEstimate =
    sumCosts (((selectedPriced tenantId priced query).filter
      fun one => lineKey query.groupBy one.meter = line.key).filterMap
        (PricedMeter.costIn query.currency))
  total : (invoiceOf tenantId priced query).totalCostEstimate =
    sumCosts ((invoiceOf tenantId priced query).lines.filterMap BillingInvoiceLine.costEstimate)

/-- Some rule of the currency is chosen before the rule, which comes after so many others. -/
def Beaten (currency : String) (query : PriceQuery) (rules before : List BillingPricingRule)
    (rule : BillingPricingRule) : Prop :=
  (∃ other ∈ rules, other.matches? query = true ∧ other.currency = currency ∧
    rule.specificity < other.specificity) ∨
  ∃ other ∈ before, other.matches? query = true ∧ other.currency = currency ∧
    other.specificity = rule.specificity

/-- Every rule of another currency that matches a meter of the invoice is beaten by one of the
invoice's currency. -/
def OwnCurrencyFirst (tenantId : String) (priced : List PricedMeter)
    (query : BillingInvoiceQuery) : Prop :=
  ∀ one ∈ selectedPriced tenantId priced query, ∀ before rule after,
    one.rules = before ++ rule :: after → rule.matches? (priceQuery one.meter) = true →
      rule.currency ≠ query.currency →
      Beaten query.currency (priceQuery one.meter) one.rules before rule

section Choice

variable {currency : String} {query : PriceQuery} {rules : List BillingPricingRule}

theorem chosen_iff_beaten :
    (∀ rule, matchRule rules query = some rule → rule.currency = currency) ↔
      ∀ before rule after, rules = before ++ rule :: after → rule.matches? query = true →
        rule.currency ≠ currency → Beaten currency query rules before rule := by
  constructor
  · intro own before rule after parts matching other_currency
    cases chosen : matchRule rules query with
    | none =>
      have among : rule ∈ rules := parts ▸ List.mem_append_right _ List.mem_cons_self
      rw [matchRule_eq_none.mp chosen rule among] at matching
      cases matching
    | some best =>
      have best_own := own best chosen
      obtain ⟨best_matches, front, back, parts', below, at_most⟩ := matchRule_eq_some.mp chosen
      have listed : best ∈ rules := parts' ▸ List.mem_append_right _ List.mem_cons_self
      have different : rule ≠ best := by
        rintro rfl
        exact other_currency best_own
      have aligned : front ++ best :: back = before ++ rule :: after := parts'.symm.trans parts
      rcases List.append_eq_append_iff.mp aligned with ⟨gap, rfl, rest⟩ | ⟨gap, rfl, rest⟩
      · cases gap with
        | nil => exact absurd (List.cons.inj rest).1.symm different
        | cons first gap =>
          obtain ⟨rfl, later⟩ := List.cons.inj rest
          have lower := at_most rule (later ▸ List.mem_append_right _ List.mem_cons_self) matching
          rcases Nat.lt_or_eq_of_le lower with less | equal
          · exact .inl ⟨best, listed, best_matches, best_own, less⟩
          · exact .inr ⟨best, List.mem_append_right _ List.mem_cons_self, best_matches, best_own,
              equal.symm⟩
      · cases gap with
        | nil => exact absurd (List.cons.inj rest).1 different
        | cons first gap =>
          obtain ⟨rfl, later⟩ := List.cons.inj rest
          have less := below rule (List.mem_append_right _ List.mem_cons_self) matching
          exact .inl ⟨best, listed, best_matches, best_own, less⟩
  · intro beaten rule chosen
    obtain ⟨matching, before, after, parts, below, at_most⟩ := matchRule_eq_some.mp chosen
    by_contra other_currency
    rcases beaten before rule after parts matching other_currency with
      ⟨other, among, matches_too, -, less⟩ | ⟨other, among, matches_too, -, equal⟩
    · rw [parts, List.mem_append, List.mem_cons] at among
      rcases among with early | rfl | late
      · exact absurd (below other early matches_too) (Nat.lt_asymm less)
      · exact absurd less (Nat.lt_irrefl _)
      · exact absurd (at_most other late matches_too) (Nat.not_le_of_lt less)
    · exact absurd equal (below other among matches_too).ne

end Choice

section Costs

variable {tenantId : String} {priced : List PricedMeter} {query : BillingInvoiceQuery}

theorem selectedMeters_record : selectedMeters tenantId (priced.map PricedMeter.record) query =
    (selectedPriced tenantId priced query).map PricedMeter.record := by
  unfold selectedMeters BillingInvoiceQuery.apply selectedPriced
  rw [List.filter_filter, List.filter_map]
  congr 1
  exact List.filter_congr fun one _ => Bool.and_comm _ _

theorem cost_foldl (bucket : BillingInvoiceLine) (meters : List BillingMeterEvent) :
    (meters.foldl addMeter bucket).costEstimate =
      if meters.filterMap BillingMeterEvent.costEstimate = [] then bucket.costEstimate
      else some (bucket.costEstimate.getD 0 +
        (meters.filterMap BillingMeterEvent.costEstimate).sum) := by
  induction meters generalizing bucket with
  | nil => rfl
  | cons meter rest ih =>
    rw [List.foldl_cons, ih]
    cases cost : meter.costEstimate with
    | none => simp [addMeter, cost]
    | some c =>
      by_cases none_left : rest.filterMap BillingMeterEvent.costEstimate = []
      · simp [addMeter, cost, none_left]
      · simp [addMeter, cost, none_left, add_assoc]

theorem cost_of_line {meters : List BillingMeterEvent} {line : BillingInvoiceLine}
    (among : line ∈ linesOf meters query) : line.costEstimate =
      sumCosts ((ofKey query.groupBy line.key meters).filterMap BillingMeterEvent.costEstimate) := by
  have held := ((mem_linesOf meters query).mp among).2
  generalize costs_eq : (ofKey query.groupBy line.key meters).filterMap
    BillingMeterEvent.costEstimate = costs
  have bucket := cost_foldl (emptyBucket query.groupBy line.key) (ofKey query.groupBy line.key meters)
  rw [costs_eq] at bucket
  rw [congrArg BillingInvoiceLine.costEstimate held]
  change sumCosts _ = _
  rw [bucket]
  by_cases none_priced : costs = []
  · subst none_priced
    rfl
  · have start : (emptyBucket query.groupBy line.key).costEstimate.getD 0 = 0 := rfl
    rw [if_neg none_priced, start, zero_add]
    simp [sumCosts, none_priced]

theorem costIn_of_own {currency : String} {one : PricedMeter}
    (own : ∀ rule, one.rule? = some rule → rule.currency = currency) :
    one.costIn currency = one.record.costEstimate := by
  have recorded : one.record.costEstimate =
      one.rule?.map fun rule => costBy rule one.meter.quantity := rfl
  unfold PricedMeter.costIn
  rw [recorded]
  cases chosen : one.rule? with
  | none => rfl
  | some rule => rw [Option.filter_some, if_pos (decide_eq_true (own rule chosen))]

end Costs

/-- An invoice is pure in its currency just when every rule of another currency that matches one of
its meters is beaten by a rule of its own currency. -/
theorem currencyPure_iff (tenantId : String) (priced : List PricedMeter)
    (query : BillingInvoiceQuery) :
    CurrencyPure tenantId priced query ↔ OwnCurrencyFirst tenantId priced query := by
  have chosen_own : OwnCurrencyFirst tenantId priced query ↔
      ∀ one ∈ selectedPriced tenantId priced query, ∀ rule, one.rule? = some rule →
        rule.currency = query.currency :=
    forall₂_congr fun one _ => chosen_iff_beaten.symm
  rw [chosen_own]
  constructor
  · intro pure one among rule chosen
    have recorded : one.record.costEstimate = some (costBy rule one.meter.quantity) :=
      congrArg (Option.map fun rule => costBy rule one.meter.quantity) chosen
    obtain ⟨source, -, own, chosen', -⟩ := pure.cost_from one among _ recorded
    rw [chosen] at chosen'
    exact (Option.some.inj chosen').symm ▸ own
  · intro own
    constructor
    · intro one among cost recorded
      obtain ⟨rule, chosen, rfl⟩ := Option.map_eq_some_iff.mp recorded
      obtain ⟨-, before, after, parts, -⟩ := matchRule_eq_some.mp chosen
      have listed : rule ∈ one.rules := parts ▸ List.mem_append_right _ List.mem_cons_self
      exact ⟨rule, listed, own one among rule chosen, chosen, rfl⟩
    · intro one among others
      rw [← costIn_of_own (own one among)]
      unfold PricedMeter.costIn
      cases chosen : one.rule? with
      | none => rfl
      | some rule =>
        obtain ⟨matching, before, after, parts, -⟩ := matchRule_eq_some.mp chosen
        have listed : rule ∈ one.rules := parts ▸ List.mem_append_right _ List.mem_cons_self
        exact absurd (own one among rule chosen) (others rule listed matching)
    · intro line among
      have line_among : line ∈ linesOf (selectedMeters tenantId (priced.map PricedMeter.record) query)
        query := among
      rw [cost_of_line line_among, selectedMeters_record]
      unfold ofKey
      rw [List.filter_map, List.filterMap_map]
      congr 1
      refine List.filterMap_congr fun one listed => ?_
      exact (costIn_of_own (own one (List.mem_filter.mp listed).1)).symm
    · rfl

theorem call_nonempty : "call" ≠ "" := by decide

theorem one_positive : (0 : ℚ) < 1 := by decide

def euroRule : BillingPricingRule where
  meterType := "model_call_count"
  unit := "call"
  pricePerUnit := 2
  currency := "EUR"
  unit_nonempty := call_nonempty
  quantity_pos := one_positive

theorem euros_billed_as_dollars :
    ¬CurrencyPure "acme" [⟨noonMeter, [euroRule]⟩] anyUsage ∧ anyUsage.currency = "USD" ∧
      (invoiceOf "acme" [⟨noonMeter, [euroRule]⟩] anyUsage).totalCostEstimate = some 2 ∧
      (invoiceOf "acme" [⟨noonMeter, [euroRule]⟩] anyUsage).unpricedEventCount = 0 := by
  refine ⟨fun pure => ?_, rfl, by decide +kernel, by decide +kernel⟩
  have among : ⟨noonMeter, [euroRule]⟩ ∈ selectedPriced "acme" [⟨noonMeter, [euroRule]⟩] anyUsage :=
    List.mem_filter.mpr ⟨List.mem_singleton_self _, by decide +kernel⟩
  have unpriced := pure.unpriced _ among fun rule listed _ => by
    rw [List.mem_singleton.mp listed]
    decide
  exact absurd unpriced (by decide +kernel)

end Taroai.Billing
