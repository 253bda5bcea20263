import Mathlib.Data.List.Basic
import Mathlib.Data.List.Sort
import Taroai.Lib.Raising
import Taroai.Store.TextTimes

/-! Legal holds and the two stores that answer which of them are active. The store in memory
compares instants, and raises on an expiry without an offset. The SQL store compares the texts
of the columns, in which an expiry stands with the offset it was given with. -/

namespace Taroai.Lifecycle

open Store

inductive DataCategory where
  | identity
  | run
  | event
  | artifact
  | storageObject
  | memory
  | knowledge
  | vector
  | audit
  | billing
  | sandboxSnapshot
  | connectorCredentialRef
  | trace
deriving DecidableEq, Repr

def DataCategory.value : DataCategory → String
  | identity => "identity"
  | run => "run"
  | event => "event"
  | artifact => "artifact"
  | storageObject => "storage_object"
  | memory => "memory"
  | knowledge => "knowledge"
  | vector => "vector"
  | audit => "audit"
  | billing => "billing"
  | sandboxSnapshot => "sandbox_snapshot"
  | connectorCredentialRef => "connector_credential_ref"
  | trace => "trace"

inductive LegalHoldScopeType where
  | tenant
  | workspace
  | run
  | storageObject
  | user
  | knowledgeBase
deriving DecidableEq, Repr

structure LegalHold where
  id : String
  tenantId : String
  category : DataCategory
  scopeType : LegalHoldScopeType
  scopeId : String
  reason : String
  createdByUserId : String
  expiresAt : Option DateTime
  releasedAt : Option Time
  createdAt : Time
deriving DecidableEq, Repr

inductive Raised where
  | typeError
  | notFound (message : String)
  | transitionError (message : String)
  | objectStorage
deriving DecidableEq, Repr

inductive Backend where
  | memory
  | sqlite
deriving DecidableEq, Repr

/-- The comparison `value > now`. -/
def Backend.isAfter (backend : Backend) (value : DateTime) (now : Time) : Except Raised Bool :=
  match backend with
  | memory =>
    match value.toUtc? with
    | some t => .ok (decide (now < t))
    | none => .error .typeError
  | sqlite => .ok (decide (isoformat now < isoformatOf value))

def Backend.takesActive (backend : Backend) (hold : LegalHold) (now : Time) :
    Except Raised Bool :=
  if hold.releasedAt.isSome then .ok false
  else
    match hold.expiresAt with
    | none => .ok true
    | some expiresAt => backend.isAfter expiresAt now

/-- `LegalHold.is_active`, which is the comparison of the store in memory. -/
def LegalHold.isActive (hold : LegalHold) (now : Time) : Except Raised Bool :=
  Backend.memory.takesActive hold now

/-- The equalities of the lookups. `scope_id` may be `None`, which no hold has. -/
def LegalHold.concerns (hold : LegalHold) (tenantId : String) (category : DataCategory)
    (scopeType : LegalHoldScopeType) (scopeId : Option String) : Bool :=
  hold.tenantId = tenantId ∧ hold.category = category ∧ hold.scopeType = scopeType ∧
    some hold.scopeId = scopeId

def earlier (createdAt createdAt' : Time) (id id' : String) : Bool :=
  decide (createdAt < createdAt') || decide (createdAt = createdAt') && decide (id ≤ id')

def Backend.selects (backend : Backend) (hold : LegalHold) (tenantId : String)
    (category : DataCategory) (scopeType : LegalHoldScopeType) (scopeId : Option String)
    (now : Time) : Except Raised (List LegalHold) :=
  if hold.concerns tenantId category scopeType scopeId = true then
    (backend.takesActive hold now).map fun active => if active = true then [hold] else []
  else .ok []

def listActiveLegalHolds (backend : Backend) (legalHolds : List LegalHold) (tenantId : String)
    (category : DataCategory) (scopeType : LegalHoldScopeType) (scopeId : Option String)
    (now : Time) : Except Raised (List LegalHold) :=
  let listed := gather
    (fun hold => backend.selects hold tenantId category scopeType scopeId now) legalHolds
  match backend with
  | .memory => listed
  | .sqlite => listed.map fun holds =>
    holds.mergeSort fun hold hold' => earlier hold.createdAt hold'.createdAt hold.id hold'.id

/-- `release_legal_hold`, for a hold of the tenant. -/
def releaseLegalHold (legalHolds : List LegalHold) (tenantId legalHoldId : String)
    (releasedAt : Time) : Except Raised (List LegalHold) :=
  match legalHolds.find? fun hold => hold.id = legalHoldId with
  | some hold =>
    if hold.tenantId = tenantId then
      .ok (legalHolds.map fun existing =>
        if existing.id = legalHoldId then { hold with releasedAt := some releasedAt }
        else existing)
    else .error (.notFound s!"Legal hold not found: {legalHoldId}")
  | none => .error (.notFound s!"Legal hold not found: {legalHoldId}")

section Listing

variable {backend : Backend} {legalHolds : List LegalHold} {tenantId : String}
  {category : DataCategory} {scopeType : LegalHoldScopeType} {scopeId : Option String} {now : Time}

theorem takesActive_eq (backend : Backend) (hold : LegalHold) (now : Time) :
    backend = .memory ∧ backend.takesActive hold now = hold.isActive now ∨
      backend = .sqlite ∧ ∃ active, backend.takesActive hold now = .ok active := by
  cases backend with
  | memory => exact .inl ⟨rfl, rfl⟩
  | sqlite =>
    refine .inr ⟨rfl, ?_⟩
    unfold Backend.takesActive
    split
    · exact ⟨false, rfl⟩
    · split
      · exact ⟨true, rfl⟩
      · exact ⟨_, rfl⟩

theorem selects_ok {hold : LegalHold} {ys : List LegalHold}
    (answer : backend.selects hold tenantId category scopeType scopeId now = .ok ys) :
    (hold.concerns tenantId category scopeType scopeId = true →
      ∃ active, backend.takesActive hold now = .ok active) ∧
    ∀ y, y ∈ ys ↔ y = hold ∧ hold.concerns tenantId category scopeType scopeId = true ∧
      backend.takesActive hold now = .ok true := by
  unfold Backend.selects at answer
  by_cases concerns : hold.concerns tenantId category scopeType scopeId = true
  · rw [if_pos concerns] at answer
    cases taken : backend.takesActive hold now with
    | error e =>
      rw [taken] at answer
      cases answer
    | ok active =>
      rw [taken] at answer
      refine ⟨fun _ => ⟨active, rfl⟩, fun y => ?_⟩
      cases active <;> cases answer <;> simp [concerns]
  · rw [if_neg concerns] at answer
    cases answer
    exact ⟨fun there => absurd there concerns, fun y => by simp [concerns]⟩

theorem listActiveLegalHolds_ok {holds : List LegalHold}
    (listed : listActiveLegalHolds backend legalHolds tenantId category scopeType scopeId now =
      .ok holds) :
    (∀ hold ∈ legalHolds, hold.concerns tenantId category scopeType scopeId = true →
      ∃ active, backend.takesActive hold now = .ok active) ∧
    ∀ hold, hold ∈ holds ↔ hold ∈ legalHolds ∧
      hold.concerns tenantId category scopeType scopeId = true ∧
      backend.takesActive hold now = .ok true := by
  have unsorted : ∃ found, gather
      (fun hold => backend.selects hold tenantId category scopeType scopeId now) legalHolds =
        .ok found ∧ ∀ hold, hold ∈ holds ↔ hold ∈ found := by
    unfold listActiveLegalHolds at listed
    cases backend with
    | memory => exact ⟨holds, listed, fun _ => Iff.rfl⟩
    | sqlite =>
      dsimp only at listed
      cases gathered : gather (fun hold =>
          Backend.sqlite.selects hold tenantId category scopeType scopeId now) legalHolds with
      | error e =>
        rw [gathered] at listed
        cases listed
      | ok found =>
        rw [gathered] at listed
        cases listed
        exact ⟨found, rfl, fun hold => List.mem_mergeSort⟩
  obtain ⟨found, gathered, same⟩ := unsorted
  obtain ⟨answers, members⟩ := gather_ok gathered
  constructor
  · intro hold member concerns
    obtain ⟨ys, answer⟩ := answers hold member
    exact (selects_ok answer).1 concerns
  · intro hold
    rw [same, members]
    constructor
    · rintro ⟨x, member, ys, answer, inside⟩
      obtain ⟨rfl, taken⟩ := ((selects_ok answer).2 hold).mp inside
      exact ⟨member, taken⟩
    · rintro ⟨member, taken⟩
      obtain ⟨ys, answer⟩ := answers hold member
      exact ⟨hold, member, ys, answer, ((selects_ok answer).2 hold).mpr ⟨rfl, taken⟩⟩

theorem listActiveLegalHolds_total
    (readable : ∀ hold ∈ legalHolds, hold.concerns tenantId category scopeType scopeId = true →
      ∃ active, backend.takesActive hold now = .ok active) :
    ∃ holds, listActiveLegalHolds backend legalHolds tenantId category scopeType scopeId now =
      .ok holds := by
  have answers : ∀ hold ∈ legalHolds, ∃ ys,
      backend.selects hold tenantId category scopeType scopeId now = .ok ys := by
    intro hold member
    unfold Backend.selects
    by_cases concerns : hold.concerns tenantId category scopeType scopeId = true
    · obtain ⟨active, taken⟩ := readable hold member concerns
      exact ⟨_, by rw [if_pos concerns, taken]; rfl⟩
    · exact ⟨[], if_neg concerns⟩
  obtain ⟨found, gathered⟩ := gather_total answers
  unfold listActiveLegalHolds
  rw [gathered]
  cases backend with
  | memory => exact ⟨found, rfl⟩
  | sqlite => exact ⟨_, rfl⟩

end Listing

end Taroai.Lifecycle
