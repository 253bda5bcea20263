import Taroai.Billing.Pricing

/-! The pricing rules that a process bills by: those of its settings, overridden by the stored ones
(`build_billing_pricing_service` in `workers/runner.py` and in `app.py`). Both processes number the
rules by a key; the worker's leaves the skill out. -/

namespace Taroai.Billing

open BillingPricingRule BillingPricingService

/-- `billing_pricing_rule_key` of the worker. -/
structure WorkerRuleKey where
  tenantId : Option String
  workspaceId : Option String
  meterType : String
  unit : String
  provider : Option String
  model : Option String
  currency : String
deriving DecidableEq, Repr

def workerRuleKey (rule : BillingPricingRule) : WorkerRuleKey where
  tenantId := rule.tenantId
  workspaceId := rule.workspaceId
  meterType := rule.meterType
  unit := rule.unit
  provider := rule.provider
  model := rule.model
  currency := rule.currency

/-- `billing_pricing_rule_key` of the API process. -/
def apiRuleKey (rule : BillingPricingRule) : WorkerRuleKey × Option String :=
  (workerRuleKey rule, rule.skillId)

section Merge

variable {κ : Type*} [DecidableEq κ] (key : BillingPricingRule → κ)

def mergeRules (rules : List BillingPricingRule) : Table key :=
  rules.foldl (fun effective rule => effective.put rule) .empty

/-- `build_billing_pricing_service`: the settings' rules, then the stored ones. -/
def effectiveRules (defaults stored : List BillingPricingRule) : List BillingPricingRule :=
  (mergeRules key (defaults ++ stored)).entries

variable {key} {rules : List BillingPricingRule} {rule : BillingPricingRule}

theorem mergeRules_append (rules : List BillingPricingRule) (rule : BillingPricingRule) :
    mergeRules key (rules ++ [rule]) = (mergeRules key rules).put rule := List.foldl_concat ..

theorem get?_mergeRules (k : κ) :
    (mergeRules key rules).get? k = rules.reverse.find? fun rule => key rule = k := by
  induction rules using List.reverseRecOn with
  | nil => rfl
  | append_singleton rules rule ih =>
    rw [mergeRules_append, Table.get?_put, ih, List.reverse_concat, List.find?_cons]
    by_cases same : key rule = k
    · rw [if_pos same.symm, decide_eq_true same]
    · rw [if_neg (Ne.symm same), decide_eq_false same]

theorem mem_mergeRules : rule ∈ (mergeRules key rules).entries ↔
    rules.reverse.find? (fun other => key other = key rule) = some rule := by
  rw [← get?_mergeRules]
  exact ⟨Table.get?_of_mem, Table.mem_of_get?⟩

theorem mem_of_mem_mergeRules (among : rule ∈ (mergeRules key rules).entries) : rule ∈ rules :=
  List.mem_reverse.mp (List.mem_of_find?_eq_some (mem_mergeRules.mp among))

theorem find?_keys (q : κ → Bool) : ((mergeRules key rules).entries.map key).find? q =
    (rules.map key).find? q := by
  induction rules using List.reverseRecOn with
  | nil => rfl
  | append_singleton rules rule ih =>
    rw [mergeRules_append, List.map_append, List.find?_append, ← ih]
    cases found : (mergeRules key rules).get? (key rule) with
    | none =>
      rw [Table.entries_put_new found, List.map_append, List.find?_append]
    | some old =>
      have listed : key rule ∈ (mergeRules key rules).entries.map key := by
        rw [← Table.key_of_get? found]
        exact List.mem_map_of_mem (Table.mem_of_get? found)
      rw [Table.keys_put found]
      cases first : ((mergeRules key rules).entries.map key).find? q with
      | some k => rfl
      | none =>
        have refused := List.find?_eq_none.mp first _ listed
        simp [refused]

end Merge

section Meters

variable {rules : List BillingPricingRule} {query : PriceQuery} {rule other : BillingPricingRule}

theorem specificity_le_pattern (matching : other.matches? rule.pattern = true) :
    other.specificity ≤ rule.specificity := by
  obtain ⟨tenant, workspace, skill, -, -, provider, model⟩ := matches?_iff.mp matching
  have weight {a b : Option String} (n : Nat) (field : a = none ∨ a = b) :
      (if a.isSome then n else 0) ≤ if b.isSome then n else 0 := by
    rcases field with rfl | rfl
    · exact Nat.zero_le _
    · exact le_rfl
  unfold specificity
  exact Nat.add_le_add (Nat.add_le_add (Nat.add_le_add (Nat.add_le_add (weight 4 tenant)
    (weight 8 workspace)) (weight 16 skill)) (weight 2 provider)) (weight 1 model)

theorem matches_same_iff :
    (∀ query, rule.matches? query = other.matches? query) ↔ rule.pattern = other.pattern := by
  constructor
  · intro same
    have there : other.matches? rule.pattern = true := by
      rw [← same]
      exact matches?_pattern rule
    have here : rule.matches? other.pattern = true := by
      rw [same]
      exact matches?_pattern other
    exact pattern_eq_of_specificity (matches?_pattern rule) there
      (Nat.le_antisymm (specificity_le_pattern here) (specificity_le_pattern there))
  · exact fun same query => matches?_congr same

def ofPattern (rules : List BillingPricingRule) (pattern : PriceQuery) : Option BillingPricingRule :=
  rules.find? fun rule => rule.pattern = pattern

theorem pattern_of_found {pattern : PriceQuery} (found : ofPattern rules pattern = some rule) :
    rule.pattern = pattern := by
  unfold ofPattern at found
  have same := List.find?_some found
  exact of_decide_eq_true same

theorem ofPattern_of_matchRule (chosen : matchRule rules query = some rule) :
    ofPattern rules rule.pattern = some rule := by
  obtain ⟨matching, before, after, rfl, below, -⟩ := matchRule_eq_some.mp chosen
  refine List.find?_eq_some_iff_append.mpr ⟨decide_eq_true rfl, before, after, rfl,
    fun earlier among => ?_⟩
  rw [Bool.not_eq_true', decide_eq_false_iff_not]
  intro same
  have less := below earlier among ((matches?_congr same).trans matching)
  exact less.ne (specificity_congr same)

theorem specificity_le_matchRule (chosen : matchRule rules query = some rule)
    (among : other ∈ rules) (matching : other.matches? query = true) :
    other.specificity ≤ rule.specificity := by
  obtain ⟨-, before, after, rfl, below, at_most⟩ := matchRule_eq_some.mp chosen
  rw [List.mem_append, List.mem_cons] at among
  rcases among with early | rfl | late
  · exact (below other early matching).le
  · exact le_rfl
  · exact at_most other late matching

theorem matchRule_pattern (among : rule ∈ rules) :
    matchRule rules rule.pattern = ofPattern rules rule.pattern := by
  cases chosen : matchRule rules rule.pattern with
  | none =>
    have refused := matchRule_eq_none.mp chosen rule among
    rw [matches?_pattern] at refused
    cases refused
  | some best =>
    obtain ⟨matching, -⟩ := matchRule_eq_some.mp chosen
    have equal := Nat.le_antisymm (specificity_le_pattern matching)
      (specificity_le_matchRule chosen among (matches?_pattern rule))
    rw [← pattern_eq_of_specificity matching (matches?_pattern rule) equal]
    exact (ofPattern_of_matchRule chosen).symm

theorem matchRule_congr {others : List BillingPricingRule}
    (same : ∀ rule, rule ∈ rules ∨ rule ∈ others →
      ofPattern rules rule.pattern = ofPattern others rule.pattern) (query : PriceQuery) :
    matchRule rules query = matchRule others query := by
  have found {listed rest : List BillingPricingRule} {best : BillingPricingRule}
      (at_best : ofPattern listed best.pattern = ofPattern rest best.pattern)
      (chosen : matchRule listed query = some best) : best ∈ rest :=
    List.mem_of_find?_eq_some (at_best.symm.trans (ofPattern_of_matchRule chosen))
  have listed {rules : List BillingPricingRule} {best : BillingPricingRule}
      (chosen : matchRule rules query = some best) : best ∈ rules :=
    List.mem_of_find?_eq_some (ofPattern_of_matchRule chosen)
  cases here : matchRule rules query with
  | none =>
    cases there : matchRule others query with
    | none => rfl
    | some best =>
      have among := found (same best (.inr (listed there))).symm there
      have refused := matchRule_eq_none.mp here best among
      rw [(matchRule_eq_some.mp there).1] at refused
      cases refused
  | some best =>
    have at_best := same best (.inl (listed here))
    have among := found at_best here
    have matching := (matchRule_eq_some.mp here).1
    cases there : matchRule others query with
    | none =>
      rw [matchRule_eq_none.mp there best among] at matching
      cases matching
    | some chosen =>
      have back := found (same chosen (.inr (listed there))).symm there
      have equal := Nat.le_antisymm (specificity_le_matchRule there among matching)
        (specificity_le_matchRule here back (matchRule_eq_some.mp there).1)
      have one_pattern := pattern_eq_of_specificity matching (matchRule_eq_some.mp there).1 equal
      rw [← ofPattern_of_matchRule here, at_best, one_pattern]
      exact ofPattern_of_matchRule there

end Meters

section Merging

variable {κ : Type*} [DecidableEq κ]

/-- Merging keeps the overriding rule of each pattern, replaces a rule by one that matches the same
meters only, and bills each meter by the most specific rule of the full list, a stored rule going
before the settings' and a later one before an earlier. -/
structure LosesNoRule (key : BillingPricingRule → κ) (defaults stored : List BillingPricingRule) :
    Prop where
  kept : ∀ rule ∈ defaults ++ stored, ∀ last,
    ofPattern (defaults ++ stored).reverse rule.pattern = some last →
      last ∈ effectiveRules key defaults stored
  replaced : ∀ before rule after, defaults ++ stored = before ++ rule :: after →
    ∀ old, (mergeRules key before).get? (key rule) = some old →
      ∀ query, old.matches? query = rule.matches? query
  picked : ∀ query, matchRule (effectiveRules key defaults stored) query =
    matchRule (defaults ++ stored).reverse query

def KeySeparates (key : BillingPricingRule → κ) (rules : List BillingPricingRule) : Prop :=
  ∀ rule ∈ rules, ∀ other ∈ rules, key rule = key other → rule.pattern = other.pattern

def EndsMeet (key : BillingPricingRule → κ) (rules : List BillingPricingRule) : Prop :=
  ∀ pattern first last, ofPattern rules pattern = some first →
    ofPattern rules.reverse pattern = some last → key first = key last

variable {key : BillingPricingRule → κ} {rules : List BillingPricingRule}
  {rule : BillingPricingRule}

theorem ofPattern_of_mem (among : rule ∈ rules) :
    ∃ first, ofPattern rules rule.pattern = some first ∧ first ∈ rules ∧
      first.pattern = rule.pattern := by
  have listed : (ofPattern rules rule.pattern).isSome :=
    List.find?_isSome.mpr ⟨rule, among, decide_eq_true rfl⟩
  obtain ⟨first, found⟩ := Option.isSome_iff_exists.mp listed
  exact ⟨first, found, List.mem_of_find?_eq_some found, pattern_of_found found⟩

theorem separates_of_replaced
    (replaced : ∀ before rule after, rules = before ++ rule :: after →
      ∀ old, (mergeRules key before).get? (key rule) = some old → old.pattern = rule.pattern) :
    KeySeparates key rules := by
  induction rules using List.reverseRecOn with
  | nil => exact fun rule among => absurd among List.not_mem_nil
  | append_singleton rules last ih =>
    have earlier : KeySeparates key rules := ih fun before rule after parts =>
      replaced before rule (after ++ [last]) (by rw [parts]; simp)
    have at_last : ∀ rule ∈ rules, key rule = key last → rule.pattern = last.pattern := by
      intro rule among same
      have listed : ((mergeRules key rules).get? (key last)).isSome := by
        rw [get?_mergeRules, List.find?_isSome]
        exact ⟨rule, List.mem_reverse.mpr among, decide_eq_true same⟩
      obtain ⟨old, found⟩ := Option.isSome_iff_exists.mp listed
      have old_listed := mem_of_mem_mergeRules (Table.mem_of_get? found)
      have old_key := Table.key_of_get? found
      rw [earlier rule among old old_listed (same.trans old_key.symm)]
      exact replaced rules last [] rfl old found
    intro rule among other among' same
    rw [List.mem_append, List.mem_singleton] at among among'
    rcases among with among | rfl
    · rcases among' with among' | rfl
      · exact earlier rule among other among' same
      · exact at_last rule among same
    · rcases among' with among' | rfl
      · exact (at_last other among' same.symm).symm
      · rfl

/-- Where the keys separate, the first merged rule of a pattern is the last one listed under the
key of the first one listed. -/
theorem ofPattern_mergeRules (separates : KeySeparates key rules) (pattern : PriceQuery) :
    ofPattern (mergeRules key rules).entries pattern =
      (ofPattern rules pattern).bind fun first =>
        rules.reverse.find? fun rule => key rule = key first := by
  cases first_found : ofPattern rules pattern with
  | none =>
    refine List.find?_eq_none.mpr fun rule among => ?_
    exact List.find?_eq_none.mp first_found rule (mem_of_mem_mergeRules among)
  | some first =>
    have first_listed := List.mem_of_find?_eq_some first_found
    have first_pattern : first.pattern = pattern := pattern_of_found first_found
    -- the keys of the pattern are those of its listed rules
    let q (k : κ) : Bool := rules.any fun rule => key rule = k && rule.pattern = pattern
    have of_q {rule : BillingPricingRule} (among : rule ∈ rules) :
        q (key rule) = decide (rule.pattern = pattern) := by
      rw [Bool.eq_iff_iff, List.any_eq_true, decide_eq_true_iff]
      constructor
      · rintro ⟨other, listed, both⟩
        rw [Bool.and_eq_true, decide_eq_true_iff, decide_eq_true_iff] at both
        exact (separates rule among other listed both.1.symm).trans both.2
      · exact fun same => ⟨rule, among, by simp [same]⟩
    have agree {listed : List BillingPricingRule} (sub : ∀ rule ∈ listed, rule ∈ rules) :
        (listed.map key).find? q = (ofPattern listed pattern).map key := by
      rw [List.find?_map]
      congr 1
      unfold ofPattern
      rw [← List.head?_filter, ← List.head?_filter]
      congr 1
      exact List.filter_congr fun rule among => of_q (sub rule among)
    have keys : ((mergeRules key rules).entries.map key).find? q = (rules.map key).find? q :=
      find?_keys q
    rw [agree fun rule => mem_of_mem_mergeRules, agree fun rule among => among, first_found] at keys
    obtain ⟨merged, merged_found, same⟩ := Option.map_eq_some_iff.mp keys
    have held := mem_mergeRules.mp (List.mem_of_find?_eq_some merged_found)
    rw [merged_found, ← held, same]
    rfl

/-- No rule is lost just when the keys separate the rules of different meters, and each pattern's
overriding rule is in the place of its first one. -/
theorem losesNoRule_iff_keys {defaults stored : List BillingPricingRule} :
    LosesNoRule key defaults stored ↔
      KeySeparates key (defaults ++ stored) ∧ EndsMeet key (defaults ++ stored) := by
  constructor
  · intro lossless
    have separates : KeySeparates key (defaults ++ stored) :=
      separates_of_replaced fun before rule after parts old found =>
        matches_same_iff.mp (lossless.replaced before rule after parts old found)
    refine ⟨separates, fun pattern first last first_found last_found => ?_⟩
    have first_listed := List.mem_of_find?_eq_some first_found
    have last_listed := List.mem_of_find?_eq_some last_found
    have last_pattern : last.pattern = pattern := pattern_of_found last_found
    have merged := lossless.kept last (List.mem_reverse.mp last_listed) last
      (by rw [last_pattern]; exact last_found)
    have picked := lossless.picked last.pattern
    rw [matchRule_pattern merged, matchRule_pattern last_listed, last_pattern, last_found] at picked
    have place := ofPattern_mergeRules separates pattern
    rw [first_found] at place
    have under_key : (defaults ++ stored).reverse.find? (fun rule => key rule = key first) =
      some last := place.symm.trans picked
    have same_key := List.find?_some under_key
    exact (of_decide_eq_true same_key).symm
  · rintro ⟨separates, ends⟩
    have overriding {rule last : BillingPricingRule}
        (found : ofPattern (defaults ++ stored).reverse rule.pattern = some last) :
        (defaults ++ stored).reverse.find? (fun other => key other = key last) = some last := by
      obtain ⟨same, before, after, parts, none_before⟩ := List.find?_eq_some_iff_append.mp found
      refine List.find?_eq_some_iff_append.mpr ⟨decide_eq_true rfl, before, after, parts,
        fun other among => ?_⟩
      rw [Bool.not_eq_true', decide_eq_false_iff_not]
      intro one_key
      have listed : other ∈ defaults ++ stored := List.mem_reverse.mp
        (parts ▸ List.mem_append_left _ among)
      have last_listed : last ∈ defaults ++ stored := List.mem_reverse.mp
        (List.mem_of_find?_eq_some found)
      have apart := none_before other among
      rw [Bool.not_eq_true', decide_eq_false_iff_not] at apart
      exact apart ((separates other listed last last_listed one_key).trans (of_decide_eq_true same))
    constructor
    · intro rule among last found
      exact mem_mergeRules.mpr (overriding found)
    · intro before rule after parts old found
      refine matches_same_iff.mpr (separates old ?_ rule ?_ (Table.key_of_get? found))
      · rw [parts]
        exact List.mem_append_left _ (mem_of_mem_mergeRules (Table.mem_of_get? found))
      · rw [parts]
        exact List.mem_append_right _ List.mem_cons_self
    · refine matchRule_congr fun rule among => ?_
      have listed : rule ∈ defaults ++ stored := by
        rcases among with among | among
        · exact mem_of_mem_mergeRules among
        · exact List.mem_reverse.mp among
      obtain ⟨first, first_found, -⟩ := ofPattern_of_mem listed
      obtain ⟨last, last_found, -⟩ := ofPattern_of_mem (List.mem_reverse.mpr listed)
      unfold effectiveRules
      rw [ofPattern_mergeRules separates, first_found, last_found]
      exact (congrArg (fun k => (defaults ++ stored).reverse.find? fun other => key other = k)
        (ends _ first last first_found last_found)).trans (overriding last_found)

end Merging

/-- Rules that differ in nothing but the skill and the price are alike in the skill. -/
def SkillsAlike (rules : List BillingPricingRule) : Prop :=
  ∀ rule ∈ rules, ∀ other ∈ rules, workerRuleKey rule = workerRuleKey other →
    rule.skillId = other.skillId

def OneCurrency (rules : List BillingPricingRule) : Prop :=
  ∀ pattern first last, ofPattern rules pattern = some first →
    ofPattern rules.reverse pattern = some last → first.currency = last.currency

section Keys

variable {rule other : BillingPricingRule}

theorem pattern_of_workerRuleKey (same : workerRuleKey rule = workerRuleKey other)
    (skill : rule.skillId = other.skillId) : rule.pattern = other.pattern := by
  simp only [workerRuleKey, WorkerRuleKey.mk.injEq] at same
  obtain ⟨tenant, workspace, meterType, unit, provider, model, -⟩ := same
  simp only [pattern, PriceQuery.mk.injEq]
  exact ⟨meterType, unit, provider, model, tenant, workspace, skill⟩

theorem workerRuleKey_of_pattern (same : rule.pattern = other.pattern) :
    workerRuleKey rule = workerRuleKey other ↔ rule.currency = other.currency := by
  simp only [pattern, PriceQuery.mk.injEq] at same
  obtain ⟨meterType, unit, provider, model, tenant, workspace, -⟩ := same
  simp only [workerRuleKey, WorkerRuleKey.mk.injEq]
  exact ⟨fun parts => parts.2.2.2.2.2.2, fun currency =>
    ⟨tenant, workspace, meterType, unit, provider, model, currency⟩⟩

/-- The worker loses rules that differ in the currency or the skill. -/
theorem worker_losesNoRule_iff (defaults stored : List BillingPricingRule) :
    LosesNoRule workerRuleKey defaults stored ↔
      SkillsAlike (defaults ++ stored) ∧ OneCurrency (defaults ++ stored) := by
  rw [losesNoRule_iff_keys]
  refine and_congr ?_ ?_
  · refine forall₂_congr fun rule _ => forall₂_congr fun other _ => forall_congr' fun same => ?_
    exact ⟨congrArg PriceQuery.skillId, pattern_of_workerRuleKey same⟩
  · refine forall_congr' fun pattern => forall₂_congr fun first last =>
      forall₂_congr fun here there => ?_
    exact workerRuleKey_of_pattern ((pattern_of_found here).trans (pattern_of_found there).symm)

end Keys

def lookupPrice : BillingPricingRule where
  tenantId := "tenant_acme"
  workspaceId := "workspace_sales"
  skillId := "sales.crm_lookup"
  meterType := "skill_call_count"
  unit := "call"
  pricePerUnit := 2 / 25
  price_nonneg := by norm_num

def skillPrice : BillingPricingRule where
  tenantId := "tenant_acme"
  workspaceId := "workspace_sales"
  meterType := "skill_call_count"
  unit := "call"
  pricePerUnit := 1 / 5
  price_nonneg := by norm_num

/-- The stored price of one skill takes the place of every other skill's. -/
theorem skill_price_lost :
    ¬LosesNoRule workerRuleKey [skillPrice] [lookupPrice] ∧
      effectiveRules workerRuleKey [skillPrice] [lookupPrice] = [lookupPrice] ∧
      matchRule (effectiveRules workerRuleKey [skillPrice] [lookupPrice])
        { lookupPrice.pattern with skillId := some "support.ticket_triage" } = none ∧
      matchRule (effectiveRules apiRuleKey [skillPrice] [lookupPrice])
        { lookupPrice.pattern with skillId := some "support.ticket_triage" } = some skillPrice := by
  have merged : effectiveRules workerRuleKey [skillPrice] [lookupPrice] = [lookupPrice] := by
    decide +kernel
  refine ⟨fun lossless => ?_, merged, by decide +kernel, by decide +kernel⟩
  have kept := lossless.kept skillPrice (by simp) skillPrice (by decide +kernel)
  rw [merged, List.mem_singleton] at kept
  exact absurd kept (by decide +kernel)

end Taroai.Billing
