import Mathlib.Data.List.Sort
import Mathlib.Data.Prod.Lex
import Mathlib.Data.String.Basic
import Taroai.Billing.Invoices
import Taroai.Lib.Table
import Taroai.Store.TextTimes

/-! `billing/repository.py`: the stores of pricing rules and of invoices, in memory and in a
database. In memory the rules and the invoices are in dictionaries under texts joined with colons;
the database keys them on columns, where an absent identifier is the empty text. The clock that
both stores read is an argument. An invoice's column is the JSON text of the invoice, which is read
back as that invoice; an instant's is its `isoformat`, which the database orders by. Neither store
deletes. -/

namespace Taroai.Billing

structure PricingRuleKey where
  tenantId : String
  workspaceId : Option String := none
  skillId : Option String := none
  meterType : String
  unit : String
  provider : Option String := none
  model : Option String := none
  currency : String := "USD"
deriving DecidableEq, Repr

structure BillingPricingRuleUpsert extends PricingRuleKey where
  pricePerUnit : ℚ
  pricingUnitQuantity : ℚ := 1
  updatedByUserId : Option String := none
  tenant_nonempty : tenantId ≠ "" := by decide
  meterType_nonempty : ¬meterType = "" := by decide
  unit_nonempty : ¬unit = "" := by decide
  price_nonneg : pricePerUnit ≥ 0 := by decide
  quantity_pos : pricingUnitQuantity > 0 := by decide
  currency_length : 3 = currency.length := by decide

structure BillingPricingRuleRecord extends PricingRuleKey where
  pricePerUnit : ℚ
  pricingUnitQuantity : ℚ
  updatedByUserId : Option String
  createdAt : Time
  updatedAt : Time
deriving DecidableEq

def BillingPricingRuleUpsert.record (request : BillingPricingRuleUpsert)
    (existing : Option BillingPricingRuleRecord) (now : Time) : BillingPricingRuleRecord where
  toPricingRuleKey := request.toPricingRuleKey
  pricePerUnit := request.pricePerUnit
  pricingUnitQuantity := request.pricingUnitQuantity
  updatedByUserId := request.updatedByUserId
  createdAt := (existing.map BillingPricingRuleRecord.createdAt).getD now
  updatedAt := now

structure BillingInvoiceRecord where
  invoiceId : String
  tenantId : String
  invoice : BillingInvoice
  createdByUserId : String
  createdAt : Time
  invoice_tenant : invoice.tenantId = tenantId
  created_representable : Store.Representable createdAt
deriving DecidableEq

inductive BillingStoreError where
  | notFound (message : String)
  /-- The driver's refusal of a second row of one primary key. -/
  | integrity
deriving DecidableEq, Repr

def invoiceNotFound (invoiceId : String) : BillingStoreError :=
  .notFound s!"Billing invoice not found: {invoiceId}"

namespace InMemoryBilling

/-- `_key` of the pricing rules. -/
def ruleKey (key : PricingRuleKey) : String :=
  ":".intercalate [key.tenantId, key.workspaceId.getD "", key.skillId.getD "", key.meterType,
    key.unit, key.provider.getD "", key.model.getD "", key.currency]

/-- `_key` of the invoices. -/
def invoiceKey (tenantId invoiceId : String) : String := s!"{tenantId}:{invoiceId}"

/-- What `_sort_rules` sorts by. -/
def sortKey (key : PricingRuleKey) :
    String ×ₗ Bool ×ₗ String ×ₗ Bool ×ₗ String ×ₗ String ×ₗ String ×ₗ String ×ₗ String ×ₗ String :=
  toLex (key.tenantId, toLex (key.workspaceId.isSome, toLex (key.workspaceId.getD "",
    toLex (key.skillId.isSome, toLex (key.skillId.getD "", toLex (key.meterType, toLex (key.unit,
      toLex (key.provider.getD "", toLex (key.model.getD "", key.currency)))))))))

end InMemoryBilling

open InMemoryBilling in
structure InMemoryBilling where
  rules : Table fun rule : BillingPricingRuleRecord => ruleKey rule.toPricingRuleKey
  invoices : Table fun record : BillingInvoiceRecord => invoiceKey record.tenantId record.invoiceId

namespace InMemoryBilling

def empty : InMemoryBilling := ⟨.empty, .empty⟩

def upsertRule (s : InMemoryBilling) (request : BillingPricingRuleUpsert) (now : Time) :
    BillingPricingRuleRecord × InMemoryBilling :=
  let record := request.record (s.rules.get? (ruleKey request.toPricingRuleKey)) now
  (record, { s with rules := s.rules.put record })

def sortRules (rules : List BillingPricingRuleRecord) : List BillingPricingRuleRecord :=
  rules.insertionSort fun a b => sortKey a.toPricingRuleKey ≤ sortKey b.toPricingRuleKey

def listRules (s : InMemoryBilling) (tenantId : String) : List BillingPricingRuleRecord :=
  sortRules (s.rules.entries.filter fun rule => rule.tenantId = tenantId)

def listAllRules (s : InMemoryBilling) : List BillingPricingRuleRecord := sortRules s.rules.entries

def createInvoice (s : InMemoryBilling) (record : BillingInvoiceRecord) :
    BillingInvoiceRecord × InMemoryBilling :=
  (record, { s with invoices := s.invoices.put record })

def listInvoices (s : InMemoryBilling) (tenantId : String) : List BillingInvoiceRecord :=
  (s.invoices.entries.filter fun record => record.tenantId = tenantId).insertionSort fun a b =>
    toLex (a.createdAt, a.invoiceId) ≤ toLex (b.createdAt, b.invoiceId)

def getInvoice (s : InMemoryBilling) (tenantId invoiceId : String) :
    Except BillingStoreError BillingInvoiceRecord :=
  (s.invoices.get? (invoiceKey tenantId invoiceId)).elim (.error (invoiceNotFound invoiceId)) .ok

end InMemoryBilling

/-- The primary key of `billing_pricing_rules`. -/
structure PricingRuleColumns where
  tenantId : String
  workspaceId : String
  skillId : String
  meterType : String
  unit : String
  provider : String
  model : String
  currency : String
deriving DecidableEq, Repr

structure PricingRuleRow extends PricingRuleColumns where
  pricePerUnit : ℚ
  pricingUnitQuantity : ℚ
  updatedByUserId : Option String
  createdAt : Time
  updatedAt : Time
deriving DecidableEq

namespace SqlBilling

def dbOptional (value : Option String) : String := value.getD ""

def modelOptional (value : String) : Option String := if value = "" then none else some value

def columns (key : PricingRuleKey) : PricingRuleColumns where
  tenantId := key.tenantId
  workspaceId := dbOptional key.workspaceId
  skillId := dbOptional key.skillId
  meterType := key.meterType
  unit := key.unit
  provider := dbOptional key.provider
  model := dbOptional key.model
  currency := key.currency

def recordFromRow (row : PricingRuleRow) : BillingPricingRuleRecord where
  tenantId := row.tenantId
  workspaceId := modelOptional row.workspaceId
  skillId := modelOptional row.skillId
  meterType := row.meterType
  unit := row.unit
  provider := modelOptional row.provider
  model := modelOptional row.model
  currency := row.currency
  pricePerUnit := row.pricePerUnit
  pricingUnitQuantity := row.pricingUnitQuantity
  updatedByUserId := row.updatedByUserId
  createdAt := row.createdAt
  updatedAt := row.updatedAt

def rowOf (record : BillingPricingRuleRecord) : PricingRuleRow where
  toPricingRuleColumns := columns record.toPricingRuleKey
  pricePerUnit := record.pricePerUnit
  pricingUnitQuantity := record.pricingUnitQuantity
  updatedByUserId := record.updatedByUserId
  createdAt := record.createdAt
  updatedAt := record.updatedAt

/-- `ON CONFLICT DO UPDATE SET`: the key and `created_at` stay. -/
def updateRow (old excluded : PricingRuleRow) : PricingRuleRow :=
  { old with
    pricePerUnit := excluded.pricePerUnit
    pricingUnitQuantity := excluded.pricingUnitQuantity
    updatedByUserId := excluded.updatedByUserId
    updatedAt := excluded.updatedAt }

/-- `ORDER BY` of a tenant's rules. -/
def tenantOrder (row : PricingRuleColumns) :
    String ×ₗ String ×ₗ String ×ₗ String ×ₗ String ×ₗ String ×ₗ String :=
  toLex (row.workspaceId, toLex (row.skillId, toLex (row.meterType, toLex (row.unit,
    toLex (row.provider, toLex (row.model, row.currency))))))

/-- `ORDER BY` of all rules. -/
def rowOrder (row : PricingRuleColumns) :
    String ×ₗ String ×ₗ String ×ₗ String ×ₗ String ×ₗ String ×ₗ String ×ₗ String :=
  toLex (row.tenantId, tenantOrder row)

end SqlBilling

structure SqlBilling where
  rules : Table PricingRuleRow.toPricingRuleColumns
  invoices : Table BillingInvoiceRecord.invoiceId

namespace SqlBilling

def empty : SqlBilling := ⟨.empty, .empty⟩

def getRuleOptional (s : SqlBilling) (request : BillingPricingRuleUpsert) :
    Option BillingPricingRuleRecord :=
  (s.rules.get? (columns request.toPricingRuleKey)).map recordFromRow

def upsertRule (s : SqlBilling) (request : BillingPricingRuleUpsert) (now : Time) :
    BillingPricingRuleRecord × SqlBilling :=
  let record := request.record (s.getRuleOptional request) now
  let row := rowOf record
  let written := (s.rules.get? row.toPricingRuleColumns).elim row fun old => updateRow old row
  (record, { s with rules := s.rules.put written })

def listRules (s : SqlBilling) (tenantId : String) : List BillingPricingRuleRecord :=
  ((s.rules.entries.filter fun row => row.tenantId = tenantId).insertionSort fun a b =>
    tenantOrder a.toPricingRuleColumns ≤ tenantOrder b.toPricingRuleColumns).map recordFromRow

def listAllRules (s : SqlBilling) : List BillingPricingRuleRecord :=
  (s.rules.entries.insertionSort fun a b =>
    rowOrder a.toPricingRuleColumns ≤ rowOrder b.toPricingRuleColumns).map recordFromRow

/-- The primary key of `billing_invoices` is the invoice's identifier alone. -/
def createInvoice (s : SqlBilling) (record : BillingInvoiceRecord) :
    Except BillingStoreError BillingInvoiceRecord × SqlBilling :=
  match s.invoices.get? record.invoiceId with
  | some _ => (.error .integrity, s)
  | none => (.ok record, { s with invoices := s.invoices.put record })

def listInvoices (s : SqlBilling) (tenantId : String) : List BillingInvoiceRecord :=
  (s.invoices.entries.filter fun record => record.tenantId = tenantId).insertionSort fun a b =>
    toLex (Store.isoformat a.createdAt, a.invoiceId) ≤
      toLex (Store.isoformat b.createdAt, b.invoiceId)

def getInvoice (s : SqlBilling) (tenantId invoiceId : String) :
    Except BillingStoreError BillingInvoiceRecord :=
  (s.invoices.entries.find? fun record =>
    record.tenantId = tenantId && record.invoiceId = invoiceId).elim
      (.error (invoiceNotFound invoiceId)) .ok

end SqlBilling

end Taroai.Billing
