import Taroai.Billing.Invoices
import Taroai.Lib.Ranked

/-! Pricing rules: `BillingPricingRule` in `billing/models.py` and `BillingPricingService` in
`billing/service.py`. -/

namespace Taroai.Billing

structure BillingPricingRule where
  tenantId : Option String := none
  workspaceId : Option String := none
  skillId : Option String := none
  meterType : String
  unit : String
  pricePerUnit : ℚ
  pricingUnitQuantity : ℚ := 1
  provider : Option String := none
  model : Option String := none
  currency : String := "USD"
  meterType_nonempty : meterType ≠ "" := by decide
  unit_nonempty : unit ≠ "" := by decide
  price_nonneg : 0 ≤ pricePerUnit := by decide
  quantity_pos : 0 < pricingUnitQuantity := by decide
  currency_length : currency.length = 3 := by decide
  tenant_of_workspace : workspaceId ≠ none → tenantId ≠ none := by decide
deriving DecidableEq

structure PriceQuery where
  meterType : String
  unit : String
  provider : Option String := none
  model : Option String := none
  tenantId : Option String := none
  workspaceId : Option String := none
  skillId : Option String := none
deriving DecidableEq, Repr

namespace BillingPricingRule

def matches? (rule : BillingPricingRule) (query : PriceQuery) : Bool :=
  (rule.tenantId = none || rule.tenantId = query.tenantId) &&
  (rule.workspaceId = none || rule.workspaceId = query.workspaceId) &&
  (rule.skillId = none || rule.skillId = query.skillId) &&
  (rule.meterType = query.meterType) &&
  (rule.unit = query.unit) &&
  (rule.provider = none || rule.provider = query.provider) &&
  (rule.model = none || rule.model = query.model)

def specificity (rule : BillingPricingRule) : Nat :=
  (if rule.tenantId.isSome then 4 else 0) + (if rule.workspaceId.isSome then 8 else 0) +
    (if rule.skillId.isSome then 16 else 0) + (if rule.provider.isSome then 2 else 0) +
    (if rule.model.isSome then 1 else 0)

/-- The fields that `matches` looks at, as the query that has just them. -/
def pattern (rule : BillingPricingRule) : PriceQuery where
  meterType := rule.meterType
  unit := rule.unit
  provider := rule.provider
  model := rule.model
  tenantId := rule.tenantId
  workspaceId := rule.workspaceId
  skillId := rule.skillId

end BillingPricingRule

namespace BillingPricingService

/-- `sorted` with `reverse=True` keeps the order of rules that are equally specific. -/
def matchRule (rules : List BillingPricingRule) (query : PriceQuery) : Option BillingPricingRule :=
  ((rules.filter fun rule => rule.matches? query).insertionSort
    fun a b => b.specificity ≤ a.specificity).head?

def costBy (rule : BillingPricingRule) (quantity : ℚ) : ℚ :=
  roundDecimals 10 (quantity * rule.pricePerUnit / rule.pricingUnitQuantity)

def estimateCost (rules : List BillingPricingRule) (query : PriceQuery) (quantity : ℚ) : Option ℚ :=
  (matchRule rules query).map fun rule => costBy rule quantity

end BillingPricingService

namespace BillingPricingRule

variable {rule other : BillingPricingRule} {query : PriceQuery}

theorem matches?_iff : rule.matches? query = true ↔
    (rule.tenantId = none ∨ rule.tenantId = query.tenantId) ∧
    (rule.workspaceId = none ∨ rule.workspaceId = query.workspaceId) ∧
    (rule.skillId = none ∨ rule.skillId = query.skillId) ∧
    rule.meterType = query.meterType ∧ rule.unit = query.unit ∧
    (rule.provider = none ∨ rule.provider = query.provider) ∧
    (rule.model = none ∨ rule.model = query.model) := by
  simp [matches?, and_assoc]

theorem matches?_pattern (rule : BillingPricingRule) : rule.matches? rule.pattern = true :=
  matches?_iff.mpr ⟨.inr rfl, .inr rfl, .inr rfl, rfl, rfl, .inr rfl, .inr rfl⟩

theorem matches?_congr (same : rule.pattern = other.pattern) :
    rule.matches? query = other.matches? query := by
  have parts := same
  simp only [pattern, PriceQuery.mk.injEq] at parts
  obtain ⟨meterType, unit, provider, model, tenant, workspace, skill⟩ := parts
  unfold matches?
  rw [meterType, unit, provider, model, tenant, workspace, skill]

theorem specificity_congr (same : rule.pattern = other.pattern) :
    rule.specificity = other.specificity := by
  have parts := same
  simp only [pattern, PriceQuery.mk.injEq] at parts
  obtain ⟨-, -, provider, model, tenant, workspace, skill⟩ := parts
  unfold specificity
  rw [provider, model, tenant, workspace, skill]

theorem pattern_eq_of_specificity (here : rule.matches? query = true)
    (there : other.matches? query = true) (equal : rule.specificity = other.specificity) :
    rule.pattern = other.pattern := by
  rw [matches?_iff] at here there
  obtain ⟨tenant, workspace, skill, meterType, unit, provider, model⟩ := here
  obtain ⟨tenant', workspace', skill', meterType', unit', provider', model'⟩ := there
  have field : ∀ {a b c : Option String}, (a = none ∨ a = c) → (b = none ∨ b = c) →
      (a.isSome ↔ b.isSome) → a = b := by
    intro a b c first second set
    cases a with
    | none =>
      cases b with
      | none => rfl
      | some b => exact absurd (set.mpr rfl) Bool.false_ne_true
    | some a =>
      cases b with
      | none => exact absurd (set.mp rfl) Bool.false_ne_true
      | some b => simp_all
  have bits (of_rule : BillingPricingRule) : of_rule.specificity =
      4 * of_rule.tenantId.isSome.toNat + 8 * of_rule.workspaceId.isSome.toNat +
        16 * of_rule.skillId.isSome.toNat + 2 * of_rule.provider.isSome.toNat +
        of_rule.model.isSome.toNat := by
    have bit (b : Bool) (n : Nat) : (if b = true then n else 0) = n * b.toNat := by
      cases b <;> simp
    unfold specificity
    rw [bit, bit, bit, bit, bit, Nat.one_mul]
  have small (b : Bool) : b.toNat ≤ 1 := Bool.toNat_le b
  have tenants := small rule.tenantId.isSome
  have tenants' := small other.tenantId.isSome
  have workspaces := small rule.workspaceId.isSome
  have workspaces' := small other.workspaceId.isSome
  have skills := small rule.skillId.isSome
  have skills' := small other.skillId.isSome
  have providers := small rule.provider.isSome
  have providers' := small other.provider.isSome
  have models := small rule.model.isSome
  have models' := small other.model.isSome
  have set {a b : Option String} (same : a.isSome.toNat = b.isSome.toNat) :
      a.isSome ↔ b.isSome := by
    revert same
    cases a <;> cases b <;> simp
  rw [bits, bits] at equal
  simp only [pattern, PriceQuery.mk.injEq]
  exact ⟨meterType.trans meterType'.symm, unit.trans unit'.symm,
    field provider provider' (set (by omega)), field model model' (set (by omega)),
    field tenant tenant' (set (by omega)), field workspace workspace' (set (by omega)),
    field skill skill' (set (by omega))⟩

end BillingPricingRule

namespace BillingPricingService

open BillingPricingRule

variable {rules : List BillingPricingRule} {query : PriceQuery} {rule : BillingPricingRule}

theorem matchRule_eq_some : matchRule rules query = some rule ↔
    rule.matches? query = true ∧ ∃ before after, rules = before ++ rule :: after ∧
      (∀ other ∈ before, other.matches? query = true → other.specificity < rule.specificity) ∧
      ∀ other ∈ after, other.matches? query = true → other.specificity ≤ rule.specificity := by
  unfold matchRule
  rw [Ranked.head_sorted]
  constructor
  · rintro ⟨before, after, parts, below, at_most⟩
    obtain ⟨front, back, rfl, rfl, rest⟩ := List.filter_eq_append_iff.mp parts
    obtain ⟨skipped, back, rfl, none_of, matching, rfl⟩ := List.filter_eq_cons_iff.mp rest
    refine ⟨matching, front ++ skipped, back, by simp, fun other among here => ?_,
      fun other among here => at_most other (List.mem_filter.mpr ⟨among, here⟩)⟩
    rcases List.mem_append.mp among with among | among
    · exact below other (List.mem_filter.mpr ⟨among, here⟩)
    · exact absurd here (none_of other among)
  · rintro ⟨matching, before, after, rfl, below, at_most⟩
    refine ⟨before.filter fun other => other.matches? query,
      after.filter fun other => other.matches? query, ?_, fun other among => ?_, fun other among => ?_⟩
    · rw [List.filter_append]
      exact congrArg _ (List.filter_cons.trans (if_pos matching))
    · exact below other (List.mem_filter.mp among).1 (List.mem_filter.mp among).2
    · exact at_most other (List.mem_filter.mp among).1 (List.mem_filter.mp among).2

theorem matchRule_eq_none : matchRule rules query = none ↔
    ∀ rule ∈ rules, rule.matches? query = false := by
  unfold matchRule
  rw [List.head?_eq_none_iff, ← List.length_eq_zero_iff, List.length_insertionSort,
    List.length_eq_zero_iff, List.filter_eq_nil_iff]
  simp

end BillingPricingService

end Taroai.Billing
