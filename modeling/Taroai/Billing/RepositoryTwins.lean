import Mathlib
import Taroai.Billing.Repository
import Taroai.Lib.Machine

/-! The two stores of `billing/repository.py` in lockstep. They hold and answer the same as long as
the joined keys of what they are given are apart where the columns are, no identifier is the empty
text, and no invoice is created twice. -/

namespace Taroai.Billing

open InMemoryBilling SqlBilling

structure BillingTwins where
  memory : InMemoryBilling
  sql : SqlBilling

inductive BillingCall where
  | upsertRule (request : BillingPricingRuleUpsert) (now : Time)
  | listRules (tenantId : String)
  | listAllRules
  | createInvoice (record : BillingInvoiceRecord)
  | listInvoices (tenantId : String)
  | getInvoice (tenantId invoiceId : String)

inductive BillingAnswer where
  | rule (record : BillingPricingRuleRecord)
  | rules (records : List BillingPricingRuleRecord)
  | invoice (outcome : Except BillingStoreError BillingInvoiceRecord)
  | invoices (records : List BillingInvoiceRecord)

def InMemoryBilling.perform (s : InMemoryBilling) : BillingCall → BillingAnswer × InMemoryBilling
  | .upsertRule request now =>
    (.rule (s.upsertRule request now).1, (s.upsertRule request now).2)
  | .listRules tenantId => (.rules (s.listRules tenantId), s)
  | .listAllRules => (.rules s.listAllRules, s)
  | .createInvoice record =>
    (.invoice (.ok (s.createInvoice record).1), (s.createInvoice record).2)
  | .listInvoices tenantId => (.invoices (s.listInvoices tenantId), s)
  | .getInvoice tenantId invoiceId => (.invoice (s.getInvoice tenantId invoiceId), s)

def SqlBilling.perform (s : SqlBilling) : BillingCall → BillingAnswer × SqlBilling
  | .upsertRule request now =>
    (.rule (s.upsertRule request now).1, (s.upsertRule request now).2)
  | .listRules tenantId => (.rules (s.listRules tenantId), s)
  | .listAllRules => (.rules s.listAllRules, s)
  | .createInvoice record => (.invoice (s.createInvoice record).1, (s.createInvoice record).2)
  | .listInvoices tenantId => (.invoices (s.listInvoices tenantId), s)
  | .getInvoice tenantId invoiceId => (.invoice (s.getInvoice tenantId invoiceId), s)

/-- No identifier of the key is the empty text, which the database reads as an absent one. -/
structure PricingRuleKey.NoBlank (key : PricingRuleKey) : Prop where
  workspace : key.workspaceId ≠ some ""
  skill : key.skillId ≠ some ""
  provider : key.provider ≠ some ""
  model : key.model ≠ some ""

section Columns

theorem modelOptional_dbOptional {value : Option String} (solid : value ≠ some "") :
    modelOptional (dbOptional value) = value := by
  cases value with
  | none => rfl
  | some value =>
    have held : value ≠ "" := fun blank => solid (congrArg some blank)
    exact if_neg held

theorem recordFromRow_rowOf {record : BillingPricingRuleRecord}
    (solid : record.toPricingRuleKey.NoBlank) : recordFromRow (rowOf record) = record := by
  obtain ⟨key, price, quantity, updatedBy, createdAt, updatedAt⟩ := record
  have workspace := modelOptional_dbOptional solid.workspace
  have skill := modelOptional_dbOptional solid.skill
  have provider := modelOptional_dbOptional solid.provider
  have model := modelOptional_dbOptional solid.model
  simp only [recordFromRow, rowOf, columns] at *
  rw [workspace, skill, provider, model]

theorem ruleKey_of_columns {a b : PricingRuleKey} (same : columns a = columns b) :
    ruleKey a = ruleKey b := by
  simp only [columns, dbOptional, PricingRuleColumns.mk.injEq] at same
  obtain ⟨tenant, workspace, skill, meterType, unit, provider, model, currency⟩ := same
  unfold ruleKey
  rw [tenant, workspace, skill, meterType, unit, provider, model, currency]

theorem empty_lt {s : String} (held : s ≠ "") : "" < s := by
  rw [String.lt_iff_toList_lt]
  cases chars : s.toList with
  | nil => exact absurd (String.toList_eq_nil_iff.mp chars) held
  | cons c rest => exact List.nil_lt_cons c rest

theorem flagged_le {γ δ : Type*} [LE γ] [LE δ] {x y : Option String} (solid : x ≠ some "")
    (solid' : y ≠ some "") {r r' : γ} {q q' : δ} (rest : r ≤ r' ↔ q ≤ q') :
    toLex (x.isSome, toLex (x.getD "", r)) ≤ toLex (y.isSome, toLex (y.getD "", r')) ↔
      toLex (dbOptional x, q) ≤ toLex (dbOptional y, q') := by
  simp only [Prod.Lex.toLex_le_toLex, dbOptional]
  cases x with
  | none =>
    cases y with
    | none => simp [rest]
    | some b =>
      have held : b ≠ "" := fun blank => solid' (congrArg some blank)
      simp [empty_lt held]
  | some a =>
    have held : a ≠ "" := fun blank => solid (congrArg some blank)
    cases y with
    | none => simp [held, (empty_lt held).not_gt]
    | some b => simp [rest]

theorem lex_le {α γ δ : Type*} [LT α] [LE γ] [LE δ] {a a' : α} {r r' : γ} {q q' : δ}
    (rest : r ≤ r' ↔ q ≤ q') : toLex (a, r) ≤ toLex (a', r') ↔ toLex (a, q) ≤ toLex (a', q') := by
  rw [Prod.Lex.toLex_le_toLex, Prod.Lex.toLex_le_toLex, rest]

theorem sortKey_le {a b : PricingRuleKey} (solid : a.NoBlank) (solid' : b.NoBlank) :
    sortKey a ≤ sortKey b ↔ rowOrder (columns a) ≤ rowOrder (columns b) :=
  lex_le (flagged_le solid.workspace solid'.workspace (flagged_le solid.skill solid'.skill Iff.rfl))

theorem rowOrder_le {a b : PricingRuleColumns} (tenant : a.tenantId = b.tenantId) :
    rowOrder a ≤ rowOrder b ↔ tenantOrder a ≤ tenantOrder b := by
  unfold rowOrder
  rw [Prod.Lex.toLex_le_toLex, tenant]
  simp

end Columns

namespace BillingTwins

def empty : BillingTwins := ⟨.empty, .empty⟩

def step (s : BillingTwins) (call : BillingCall) : Option BillingTwins :=
  some ⟨(s.memory.perform call).2, (s.sql.perform call).2⟩

def AnswersAlike (s : BillingTwins) (call : BillingCall) : Prop :=
  (s.memory.perform call).1 = (s.sql.perform call).1

/-- Stored under one joined key are the rules of one key only, no identifier is blank, and no
invoice is created twice or asked for by the joined key of another. -/
def Orderly (s : BillingTwins) : BillingCall → Prop
  | .upsertRule request _ => request.toPricingRuleKey.NoBlank ∧
      ∀ rule ∈ s.memory.rules.entries,
        ruleKey rule.toPricingRuleKey = ruleKey request.toPricingRuleKey →
          rule.toPricingRuleKey = request.toPricingRuleKey
  | .createInvoice record => ∀ stored ∈ s.memory.invoices.entries,
      stored.invoiceId ≠ record.invoiceId ∧
        invoiceKey stored.tenantId stored.invoiceId ≠ invoiceKey record.tenantId record.invoiceId
  | .getInvoice tenantId invoiceId => ∀ stored ∈ s.memory.invoices.entries,
      invoiceKey stored.tenantId stored.invoiceId = invoiceKey tenantId invoiceId →
        stored.tenantId = tenantId ∧ stored.invoiceId = invoiceId
  | _ => True

structure InStep (s : BillingTwins) : Prop where
  rules : s.sql.rules.entries = s.memory.rules.entries.map rowOf
  solid : ∀ rule ∈ s.memory.rules.entries, rule.toPricingRuleKey.NoBlank
  invoices : s.sql.invoices.entries = s.memory.invoices.entries

section Step

variable {s s' : BillingTwins}

theorem inStep_empty : empty.InStep := ⟨rfl, fun _ among => absurd among List.not_mem_nil, rfl⟩

theorem InStep.listed (inStep : s.InStep) (p : String → Bool) :
    sortRules (s.memory.rules.entries.filter fun rule => p rule.tenantId) =
      ((s.sql.rules.entries.filter fun row => p row.tenantId).insertionSort fun a b =>
        rowOrder a.toPricingRuleColumns ≤ rowOrder b.toPricingRuleColumns).map recordFromRow := by
  rw [inStep.rules, List.filter_map]
  generalize held : (s.memory.rules.entries.filter fun rule => p rule.tenantId) = rules
  have solid : ∀ rule ∈ rules, rule.toPricingRuleKey.NoBlank := fun rule among =>
    inStep.solid rule (List.mem_of_mem_filter (held ▸ among))
  have selected : List.filter ((fun row => p row.tenantId) ∘ rowOf) s.memory.rules.entries =
    rules := held
  rw [selected, ← List.map_insertionSort
    (fun a b : BillingPricingRuleRecord => sortKey a.toPricingRuleKey ≤ sortKey b.toPricingRuleKey)
    (fun a b : PricingRuleRow =>
      rowOrder a.toPricingRuleColumns ≤ rowOrder b.toPricingRuleColumns) rowOf rules
    fun a ha b hb => sortKey_le (solid a ha) (solid b hb), List.map_map]
  refine (List.map_congr_left fun rule among => ?_).trans (List.map_id _) |>.symm
  exact recordFromRow_rowOf (solid rule ((List.mem_insertionSort _).mp among))

theorem InStep.listAllRules (inStep : s.InStep) :
    s.memory.listAllRules = s.sql.listAllRules := by
  have listed := inStep.listed fun _ => true
  rwa [List.filter_true, List.filter_true] at listed

theorem InStep.listRules (inStep : s.InStep) (tenantId : String) :
    s.memory.listRules tenantId = s.sql.listRules tenantId := by
  refine (inStep.listed fun tenant => tenant = tenantId).trans ?_
  unfold SqlBilling.listRules
  congr 1
  have same := List.map_insertionSort
    (fun a b : PricingRuleRow => rowOrder a.toPricingRuleColumns ≤ rowOrder b.toPricingRuleColumns)
    (fun a b : PricingRuleRow =>
      tenantOrder a.toPricingRuleColumns ≤ tenantOrder b.toPricingRuleColumns) id
    (s.sql.rules.entries.filter fun row => row.tenantId = tenantId) fun a ha b hb => by
      have here := of_decide_eq_true (List.mem_filter.mp ha).2
      have there := of_decide_eq_true (List.mem_filter.mp hb).2
      exact rowOrder_le (here.trans there.symm)
  rwa [List.map_id, List.map_id] at same

theorem InStep.listInvoices (inStep : s.InStep) (tenantId : String) :
    s.memory.listInvoices tenantId = s.sql.listInvoices tenantId := by
  unfold InMemoryBilling.listInvoices SqlBilling.listInvoices
  rw [inStep.invoices]
  have same := List.map_insertionSort
    (fun a b : BillingInvoiceRecord =>
      toLex (a.createdAt, a.invoiceId) ≤ toLex (b.createdAt, b.invoiceId))
    (fun a b : BillingInvoiceRecord => toLex (Store.isoformat a.createdAt, a.invoiceId) ≤
      toLex (Store.isoformat b.createdAt, b.invoiceId)) id
    (s.memory.invoices.entries.filter fun record => record.tenantId = tenantId) fun a _ b _ => by
      have before := Store.isoformat_lt a.created_representable b.created_representable
      have after := Store.isoformat_lt b.created_representable a.created_representable
      simp only [Prod.Lex.toLex_le_toLex, id]
      rw [before]
      refine or_congr_right (and_congr_left' ⟨congrArg Store.isoformat, fun same => ?_⟩)
      rw [same] at before after
      exact le_antisymm (not_lt.mp fun less => lt_irrefl _ (after.mpr less))
        (not_lt.mp fun less => lt_irrefl _ (before.mpr less))
  rwa [List.map_id, List.map_id] at same

theorem InStep.getInvoice (inStep : s.InStep) {tenantId invoiceId : String}
    (orderly : s.Orderly (.getInvoice tenantId invoiceId)) :
    s.memory.getInvoice tenantId invoiceId = s.sql.getInvoice tenantId invoiceId := by
  unfold InMemoryBilling.getInvoice SqlBilling.getInvoice Table.get?
  rw [inStep.invoices, ← List.head?_filter, ← List.head?_filter]
  congr 2
  refine List.filter_congr fun stored among => ?_
  rw [← Bool.decide_and, decide_eq_decide]
  constructor
  · exact orderly stored among
  · rintro ⟨rfl, rfl⟩
    rfl

theorem InStep.createInvoice (inStep : s.InStep) {record : BillingInvoiceRecord}
    (orderly : s.Orderly (.createInvoice record)) :
    (s.sql.createInvoice record).1 = .ok record ∧
      (s.sql.createInvoice record).2.invoices.entries =
        (s.memory.createInvoice record).2.invoices.entries ∧
      (s.sql.createInvoice record).2.rules = s.sql.rules := by
  have fresh : s.sql.invoices.get? record.invoiceId = none := Table.get?_eq_none.mpr
    fun stored among => (orderly stored (inStep.invoices ▸ among)).1
  have absent : s.memory.invoices.get? (invoiceKey record.tenantId record.invoiceId) = none :=
    Table.get?_eq_none.mpr fun stored among => (orderly stored among).2
  unfold SqlBilling.createInvoice InMemoryBilling.createInvoice
  rw [fresh]
  refine ⟨rfl, ?_, rfl⟩
  change (s.sql.invoices.put record).entries = (s.memory.invoices.put record).entries
  rw [Table.entries_put_new fresh, Table.entries_put_new absent, inStep.invoices]

theorem InStep.upsertRule (inStep : s.InStep) {request : BillingPricingRuleUpsert} {now : Time}
    (orderly : s.Orderly (.upsertRule request now)) :
    (s.sql.upsertRule request now).1 = (s.memory.upsertRule request now).1 ∧
      (s.sql.upsertRule request now).2.rules.entries =
        (s.memory.upsertRule request now).2.rules.entries.map rowOf := by
  have alike : ∀ rule ∈ s.memory.rules.entries,
      ruleKey rule.toPricingRuleKey = ruleKey request.toPricingRuleKey ↔
        columns rule.toPricingRuleKey = columns request.toPricingRuleKey := by
    intro rule among
    exact ⟨fun same => congrArg columns (orderly.2 rule among same), ruleKey_of_columns⟩
  have lookups : s.sql.rules.get? (columns request.toPricingRuleKey) =
      (s.memory.rules.get? (ruleKey request.toPricingRuleKey)).map rowOf :=
    Table.get?_image inStep.rules alike
  have records : request.record (s.sql.getRuleOptional request) now =
      request.record (s.memory.rules.get? (ruleKey request.toPricingRuleKey)) now := by
    unfold BillingPricingRuleUpsert.record SqlBilling.getRuleOptional
    rw [lookups, Option.map_map, Option.map_map]
    rfl
  refine ⟨records, ?_⟩
  unfold SqlBilling.upsertRule InMemoryBilling.upsertRule
  dsimp only
  rw [records]
  generalize written : request.record
    (s.memory.rules.get? (ruleKey request.toPricingRuleKey)) now = record
  have record_key : record.toPricingRuleKey = request.toPricingRuleKey := written ▸ rfl
  have row_written : (s.sql.rules.get? (rowOf record).toPricingRuleColumns).elim (rowOf record)
      (fun old => updateRow old (rowOf record)) = rowOf record := by
    have row_key : (rowOf record).toPricingRuleColumns = columns request.toPricingRuleKey :=
      congrArg columns record_key
    rw [row_key, lookups]
    cases found : s.memory.rules.get? (ruleKey request.toPricingRuleKey) with
    | none => rfl
    | some old =>
      -- the update leaves the key and the time of creation as the record has them
      have joined := Table.key_of_get? found
      have old_key := (alike old (Table.mem_of_get? found)).mp joined
      have created : record.createdAt = old.createdAt := by
        rw [← written, found]
        rfl
      simp only [Option.map_some, Option.elim_some, updateRow, rowOf]
      rw [old_key, record_key, created]
  rw [row_written]
  refine Table.put_image inStep.rules fun rule among => ?_
  change ruleKey rule.toPricingRuleKey = ruleKey record.toPricingRuleKey ↔
    columns rule.toPricingRuleKey = columns record.toPricingRuleKey
  rw [record_key]
  exact alike rule among

theorem InStep.call (inStep : s.InStep) {call : BillingCall} (orderly : s.Orderly call)
    (moved : s.step call = some s') : s'.InStep ∧ s.AnswersAlike call := by
  obtain rfl := Option.some.inj moved
  cases call with
  | upsertRule request now =>
    obtain ⟨same, rules⟩ := inStep.upsertRule orderly
    refine ⟨⟨rules, fun rule among => ?_, inStep.invoices⟩, congrArg BillingAnswer.rule same.symm⟩
    rcases Table.mem_put.mp among with rfl | ⟨stored, -⟩
    · exact orderly.1
    · exact inStep.solid rule stored
  | listRules tenantId => exact ⟨inStep, congrArg BillingAnswer.rules (inStep.listRules tenantId)⟩
  | listAllRules => exact ⟨inStep, congrArg BillingAnswer.rules inStep.listAllRules⟩
  | createInvoice record =>
    obtain ⟨same, invoices, rules⟩ := inStep.createInvoice orderly
    exact ⟨⟨(congrArg Table.entries rules).trans inStep.rules, inStep.solid, invoices⟩,
      congrArg BillingAnswer.invoice same.symm⟩
  | listInvoices tenantId =>
    exact ⟨inStep, congrArg BillingAnswer.invoices (inStep.listInvoices tenantId)⟩
  | getInvoice tenantId invoiceId =>
    exact ⟨inStep, congrArg BillingAnswer.invoice (inStep.getInvoice orderly)⟩

end Step

section Runs

variable {s s' t : BillingTwins}

def Held (s : BillingTwins) (key : PricingRuleKey) : Prop :=
  ∃ rule, s.memory.rules.get? (ruleKey key) = some rule ∧ rule.toPricingRuleKey = key

theorem get?_upsertRule (memory : InMemoryBilling) (request : BillingPricingRuleUpsert) (now : Time)
    (k : String) : (memory.upsertRule request now).2.rules.get? k =
      if k = ruleKey request.toPricingRuleKey then some (memory.upsertRule request now).1
      else memory.rules.get? k :=
  Table.get?_put memory.rules (memory.upsertRule request now).1 k

theorem Held.call {call : BillingCall} {key : PricingRuleKey} (held : s.Held key)
    (orderly : s.Orderly call) (moved : s.step call = some s') : s'.Held key := by
  obtain rfl := Option.some.inj moved
  cases call with
  | upsertRule request now =>
    obtain ⟨rule, found, rfl⟩ := held
    have written := get?_upsertRule s.memory request now (ruleKey rule.toPricingRuleKey)
    by_cases same : ruleKey rule.toPricingRuleKey = ruleKey request.toPricingRuleKey
    · rw [if_pos same] at written
      exact ⟨_, written, (orderly.2 rule (Table.mem_of_get? found) same).symm⟩
    · rw [if_neg same, found] at written
      exact ⟨rule, written, rfl⟩
  | _ => exact held

theorem held_of_upsert {request : BillingPricingRuleUpsert} {now : Time}
    (moved : s.step (.upsertRule request now) = some s') : s'.Held request.toPricingRuleKey := by
  obtain rfl := Option.some.inj moved
  have written := get?_upsertRule s.memory request now (ruleKey request.toPricingRuleKey)
  rw [if_pos rfl] at written
  exact ⟨_, written, rfl⟩

theorem held_of_run {schedule : List BillingCall} (orderly : Machine.Conforms step Orderly s schedule)
    (ran : Machine.run step s schedule = some t) :
    (∀ key, s.Held key → t.Held key) ∧
      ∀ request now, BillingCall.upsertRule request now ∈ schedule →
        t.Held request.toPricingRuleKey := by
  induction schedule generalizing s with
  | nil =>
    obtain rfl := Option.some.inj ran
    exact ⟨fun key held => held, fun request now among => absurd among List.not_mem_nil⟩
  | cons call rest ih =>
    obtain ⟨s', moved, later⟩ := Machine.run_cons_eq_some.mp ran
    obtain ⟨here, rest_orderly⟩ := orderly s' moved
    obtain ⟨keeps, stores⟩ := ih rest_orderly later
    refine ⟨fun key held => keeps key (held.call here moved), fun request now among => ?_⟩
    rcases List.mem_cons.mp among with rfl | among
    · exact keeps _ (held_of_upsert moved)
    · exact stores request now among

/-- Both stores answer alike along every orderly run and list the same rules and invoices in the
end, and rules of different keys were never stored under one joined key. -/
theorem stores_alike (schedule : List BillingCall)
    (orderly : Machine.Conforms step Orderly empty schedule) :
    Machine.Conforms step AnswersAlike empty schedule ∧
      (∀ t, Machine.run step empty schedule = some t →
        t.AnswersAlike .listAllRules ∧ (∀ tenantId, t.AnswersAlike (.listRules tenantId)) ∧
          ∀ tenantId, t.AnswersAlike (.listInvoices tenantId)) ∧
      ∀ request now other later, .upsertRule request now ∈ schedule →
        .upsertRule other later ∈ schedule →
          ruleKey request.toPricingRuleKey = ruleKey other.toPricingRuleKey →
            request.toPricingRuleKey = other.toPricingRuleKey := by
  refine ⟨?_, fun t ran => ?_, fun request now other later among among' same => ?_⟩
  · refine Machine.Along.of_invariant (I := InStep) ?_ inStep_empty orderly
    exact fun s call s' inStep here moved => inStep.call here moved
  · have inStep : t.InStep := Machine.invariant_conforms
      (fun s call s' inStep here moved => (inStep.call here moved).1) inStep_empty orderly ran
    exact ⟨congrArg BillingAnswer.rules inStep.listAllRules,
      fun tenantId => congrArg BillingAnswer.rules (inStep.listRules tenantId),
      fun tenantId => congrArg BillingAnswer.invoices (inStep.listInvoices tenantId)⟩
  · have total (s : BillingTwins) (calls : List BillingCall) :
        ∃ t, Machine.run step s calls = some t := by
      induction calls generalizing s with
      | nil => exact ⟨s, rfl⟩
      | cons call rest ih => exact ih _
    obtain ⟨t, ran⟩ := total empty schedule
    obtain ⟨-, stores⟩ := held_of_run orderly ran
    obtain ⟨rule, found, rule_key⟩ := stores request now among
    obtain ⟨rule', found', rule_key'⟩ := stores other later among'
    rw [same, found'] at found
    rw [← rule_key, ← rule_key', Option.some.inj found]

end Runs

def colonModel : BillingPricingRuleUpsert where
  tenantId := "tenant_acme"
  meterType := "model_call_count"
  unit := "call"
  provider := "ollama"
  model := "llama3:8b"
  pricePerUnit := 1

def colonProvider : BillingPricingRuleUpsert where
  tenantId := "tenant_acme"
  meterType := "model_call_count"
  unit := "call"
  provider := "ollama:llama3"
  model := "8b"
  pricePerUnit := 2

/-- The two rules replace one another in memory, and stand side by side in the database. -/
theorem colon_replaces :
    ¬Machine.Conforms step AnswersAlike empty
      [.upsertRule colonModel 0, .upsertRule colonProvider 1, .listAllRules] ∧
    ruleKey colonModel.toPricingRuleKey = ruleKey colonProvider.toPricingRuleKey ∧
    colonModel.toPricingRuleKey ≠ colonProvider.toPricingRuleKey := by
  refine ⟨fun alike => ?_, by decide +kernel, by decide +kernel⟩
  obtain ⟨-, after_model⟩ := alike _ rfl
  obtain ⟨-, after_provider⟩ := after_model _ rfl
  obtain ⟨listed, -⟩ := after_provider _ rfl
  have counted := congrArg List.length (BillingAnswer.rules.inj listed)
  simp only [InMemoryBilling.listAllRules, SqlBilling.listAllRules, sortRules, List.length_map,
    List.length_insertionSort] at counted
  revert counted
  decide +kernel

theorem stores_alike_model :
    Machine.Conforms step AnswersAlike empty [.upsertRule colonModel 0, .listAllRules] := by
  refine (stores_alike _ ?_).1
  refine Machine.Along.cons rfl ⟨⟨?_, ?_, ?_, ?_⟩, fun rule among => ?_⟩
    (Machine.Along.cons rfl trivial trivial)
  · decide
  · decide
  · decide
  · decide
  · exact absurd among List.not_mem_nil

end BillingTwins

end Taroai.Billing
