import Mathlib.Data.List.Sort
import Taroai.Lifecycle.Offboarding

/-! What retention clean-ups and the executions of offboarding plans delete: stored objects,
memory and knowledge. Both ask the store of legal holds before they delete; deleting an object
from the object storage may fail. -/

namespace Taroai.Lifecycle

open Store

structure StorageObject where
  id : String
  tenantId : String
  workspaceId : Option String
  runId : Option String
  retentionExpiresAt : Option DateTime
  deletedAt : Option Time
  createdAt : Time
deriving DecidableEq, Repr

inductive MemoryStatus where
  | candidate
  | active
  | rejected
  | expired
deriving DecidableEq, Repr

structure MemoryRecord where
  id : String
  tenantId : String
  workspaceId : String
  sourceRunId : String
  content : String
  status : MemoryStatus
deriving DecidableEq, Repr

structure ShortTermMemoryEntry where
  tenantId : String
  workspaceId : String
  runId : String
  key : String
deriving DecidableEq, Repr

structure KnowledgeBase where
  id : String
  tenantId : String
  workspaceId : String
deriving DecidableEq, Repr

structure KnowledgeDocument where
  id : String
  tenantId : String
  workspaceId : String
  knowledgeBaseId : String
  storageObjectId : Option String
deriving DecidableEq, Repr

structure System where
  policyBackend : Backend
  catalogBackend : Backend
  legalHolds : List LegalHold
  plans : Plans
  objects : Table StorageObject.id
  memories : List MemoryRecord
  shortTermMemories : List ShortTermMemoryEntry
  bases : List KnowledgeBase
  documents : List KnowledgeDocument

structure StorageLifecycleCleanupRequest where
  tenantId : String
  workspaceId : Option String
  now : Time
  dryRun : Bool
deriving DecidableEq, Repr

structure StorageLifecycleCleanupResult where
  storageObjectIds : List String
  skippedStorageObjectIds : List String
  wouldDeleteStorageObjectIds : List String
deriving DecidableEq, Repr

structure TenantOffboardingDeletionRequest where
  tenantId : String
  planId : String
  deletedByUserId : String
  now : Time
deriving DecidableEq, Repr

structure TenantOffboardingDeletionResult where
  plan : TenantOffboardingPlan
  deletedStorageObjectIds : List String
  skippedStorageObjectIds : List String
  legalHoldIds : List String
  preservedStorageObjectIds : List String
  deletedMemoryRecordIds : List String
  deletedShortTermMemoryCount : Nat
  deletedKnowledgeBaseIds : List String
  deletedKnowledgeDocumentIds : List String
deriving DecidableEq, Repr

/-- `_key` of the short-term memory in memory, of which `delete_for_tenant` tests a prefix. -/
def ShortTermMemoryEntry.storedKey (entry : ShortTermMemoryEntry) : String :=
  s!"{entry.tenantId}:{entry.runId}:{entry.key}"

def ShortTermMemoryEntry.underPrefix (entry : ShortTermMemoryEntry) (tenantId : String) : Bool :=
  s!"{tenantId}:".toList.isPrefixOf entry.storedKey.toList

def StorageObject.scopes (object : StorageObject) : List (LegalHoldScopeType × Option String) :=
  [(.storageObject, some object.id), (.tenant, some object.tenantId)] ++
    (object.workspaceId.toList.map fun id => (.workspace, some id)) ++
    object.runId.toList.map fun id => (.run, some id)

def StorageObject.cleanupScopes (object : StorageObject) :
    List (LegalHoldScopeType × Option String) :=
  [(.storageObject, some object.id), (.workspace, object.workspaceId),
    (.tenant, some object.tenantId)] ++ object.runId.toList.map fun id => (.run, some id)

/-- `_preserved_storage_object_ids`. -/
def TenantOffboardingPlan.preservedStorageObjectIds (plan : TenantOffboardingPlan) : List String :=
  plan.exportStorageObjectId.toList

/-- The order of the expired objects: by expiry, as instants or as texts, then by creation. -/
def Backend.expiresEarlier (backend : Backend) (object object' : StorageObject) : Bool :=
  let first := earlier object.createdAt object'.createdAt object.id object'.id
  match backend, object.retentionExpiresAt, object'.retentionExpiresAt with
  | .memory, some expiry, some expiry' =>
    let t := expiry.toUtc?.getD 0
    let t' := expiry'.toUtc?.getD 0
    decide (t < t') || decide (t = t') && first
  | .sqlite, some expiry, some expiry' =>
    decide (isoformatOf expiry < isoformatOf expiry') ||
      decide (isoformatOf expiry = isoformatOf expiry') && first
  | _, _, _ => first

def Backend.selectsExpired (backend : Backend) (object : StorageObject) (tenantId : String)
    (now : Time) (workspaceId : Option String) : Except Raised (List StorageObject) :=
  if object.tenantId = tenantId ∧ (workspaceId = none ∨ object.workspaceId = workspaceId) ∧
      object.deletedAt = none then
    match object.retentionExpiresAt with
    | none => .ok []
    | some expiresAt => (backend.isAfter expiresAt now).map fun later =>
      if later = true then [] else [object]
  else .ok []

namespace System

variable (s : System)

def legalHoldsForScopes (object : StorageObject)
    (scopes : List (LegalHoldScopeType × Option String)) (now : Time) :
    Except Raised (List LegalHold) :=
  gather (fun scope => listActiveLegalHolds s.policyBackend s.legalHolds object.tenantId
    .storageObject scope.1 scope.2 now) scopes

/-- `list_active` of the catalog, for a tenant. -/
def listActive (tenantId : String) : List StorageObject :=
  (s.objects.entries.filter fun object =>
    object.tenantId = tenantId ∧ object.deletedAt = none).mergeSort fun object object' =>
      earlier object.createdAt object'.createdAt object.id object'.id

def listExpiredForRetention (tenantId : String) (now : Time) (workspaceId : Option String) :
    Except Raised (List StorageObject) :=
  (gather (fun object => s.catalogBackend.selectsExpired object tenantId now workspaceId)
    s.objects.entries).map fun found => found.mergeSort s.catalogBackend.expiresEarlier

def storageDeletionCandidates (plan : TenantOffboardingPlan) : List StorageObject :=
  if .storageObject ∉ plan.categories then []
  else (s.listActive plan.tenantId).filter fun object =>
    object.id ∉ plan.preservedStorageObjectIds

/-- `_held_storage_objects`: the ids of the objects that are held, with the holds. -/
def heldStorageObjects (objects : List StorageObject) (now : Time) :
    Except Raised (List (String × List LegalHold)) :=
  gather (fun object => (s.legalHoldsForScopes object object.scopes now).map fun holds =>
    if holds = [] then [] else [(object.id, holds)]) objects

def activeCategoryHolds (plan : TenantOffboardingPlan) (now : Time) :
    Except Raised (List LegalHold) :=
  tenantLegalHolds s.policyBackend s.legalHolds plan.tenantId plan.categories now

/-- `mark_deleted` of the catalog. -/
def markDeleted (tenantId storageObjectId : String) (deletedAt : Time) : Except Raised System :=
  match s.objects.get? storageObjectId with
  | some object =>
    if object.deletedAt = none ∧ object.tenantId = tenantId then
      .ok { s with objects := s.objects.put { object with deletedAt := some deletedAt } }
    else .error (.notFound s!"Storage object not found: {storageObjectId}")
  | none => .error (.notFound s!"Storage object not found: {storageObjectId}")

end System

open Raising

abbrev Deleting := Raising Raised System

def deleteObject (fails : StorageObject → Bool) (tenantId : String) (now : Time)
    (object : StorageObject) : Deleting Unit := fun s =>
  if fails object = true then (.error .objectStorage, s)
  else
    match s.markDeleted tenantId object.id now with
    | .ok s' => (.ok (), s')
    | .error e => (.error e, s)

/-- What the clean-up does with one expired object; the three lists are its result. -/
def cleanupObject (fails : StorageObject → Bool) (request : StorageLifecycleCleanupRequest)
    (object : StorageObject) : Deleting StorageLifecycleCleanupResult := do
  let activeHolds ← consult fun s =>
    s.legalHoldsForScopes object object.cleanupScopes request.now
  if activeHolds ≠ [] then pure ⟨[], [object.id], []⟩
  else if request.dryRun = true then pure ⟨[], [], [object.id]⟩
  else deleteObject fails request.tenantId request.now object >>= fun _ =>
    pure ⟨[object.id], [], []⟩

def cleanupObjects (fails : StorageObject → Bool) (request : StorageLifecycleCleanupRequest) :
    List StorageObject → Deleting StorageLifecycleCleanupResult
  | [] => pure ⟨[], [], []⟩
  | object :: rest => do
    let first ← cleanupObject fails request object
    let later ← cleanupObjects fails request rest
    pure ⟨first.storageObjectIds ++ later.storageObjectIds,
      first.skippedStorageObjectIds ++ later.skippedStorageObjectIds,
      first.wouldDeleteStorageObjectIds ++ later.wouldDeleteStorageObjectIds⟩

def cleanupExpiredObjects (fails : StorageObject → Bool)
    (request : StorageLifecycleCleanupRequest) : Deleting StorageLifecycleCleanupResult := do
  let expiredObjects ← consult fun s =>
    s.listExpiredForRetention request.tenantId request.now request.workspaceId
  cleanupObjects fails request expiredObjects

def writePlan (plan : TenantOffboardingPlan) : Deleting TenantOffboardingPlan := fun s =>
  match updatePlan plan s.plans with
  | .ok plans => (.ok plan, { s with plans := plans })
  | .error e => (.error e, s)

def deleteLongTermMemory (plan : TenantOffboardingPlan) : Deleting (List String) := fun s =>
  if .memory ∉ plan.categories then (.ok [], s)
  else
    let taken (record : MemoryRecord) : Bool :=
      record.tenantId = plan.tenantId ∧ record.status ≠ .expired
    (.ok ((s.memories.filter taken).map (·.id)),
      { s with
        memories := s.memories.map fun record =>
          if taken record = true then { record with content := "", status := .expired }
          else record })

def deleteShortTermMemory (plan : TenantOffboardingPlan) : Deleting Nat := fun s =>
  if .memory ∉ plan.categories then (.ok 0, s)
  else
    (.ok (s.shortTermMemories.countP fun entry => entry.underPrefix plan.tenantId),
      { s with
        shortTermMemories := s.shortTermMemories.filter fun entry =>
          !entry.underPrefix plan.tenantId })

def deleteKnowledge (plan : TenantOffboardingPlan) : Deleting (List String × List String) :=
  fun s =>
    if .knowledge ∉ plan.categories then (.ok ([], []), s)
    else
      (.ok ((s.bases.filter fun base => base.tenantId = plan.tenantId).map (·.id),
        (s.documents.filter fun document => document.tenantId = plan.tenantId).map (·.id)),
        { s with
          bases := s.bases.filter fun base => base.tenantId ≠ plan.tenantId
          documents := s.documents.filter fun document => document.tenantId ≠ plan.tenantId })

def TenantOffboardingPlan.block (plan : TenantOffboardingPlan) (holdIds : List String)
    (now : Time) : TenantOffboardingPlan :=
  { plan with
    state := .blocked
    blockedReason := some "active_legal_hold"
    blockingLegalHoldIds := holdIds
    updatedAt := now }

def TenantOffboardingPlan.markDeleted (plan : TenantOffboardingPlan) (deletedByUserId : String)
    (now : Time) : TenantOffboardingPlan :=
  { plan with
    state := .deleted
    deletedByUserId := some deletedByUserId
    deletedAt := some now
    updatedAt := now }

def System.lookups (s : System) (plan : TenantOffboardingPlan) (now : Time) :
    Except Raised (List (String × List LegalHold) × List LegalHold) := do
  let heldObjects ← s.heldStorageObjects (s.storageDeletionCandidates plan) now
  let categoryHolds ← s.activeCategoryHolds plan now
  pure (heldObjects, categoryHolds)

def executeBlocked (request : TenantOffboardingDeletionRequest) (plan : TenantOffboardingPlan)
    (heldObjects : List (String × List LegalHold)) (categoryHolds : List LegalHold) :
    Deleting TenantOffboardingDeletionResult := do
  let holdIds := dedupeHoldIds (heldObjects.flatMap (·.2) ++ categoryHolds)
  let blocked ← writePlan (plan.block holdIds request.now)
  pure {
    plan := blocked
    deletedStorageObjectIds := []
    skippedStorageObjectIds := heldObjects.map (·.1)
    legalHoldIds := holdIds
    preservedStorageObjectIds := plan.preservedStorageObjectIds
    deletedMemoryRecordIds := []
    deletedShortTermMemoryCount := 0
    deletedKnowledgeBaseIds := []
    deletedKnowledgeDocumentIds := [] }

def executeDeletion (fails : StorageObject → Bool) (request : TenantOffboardingDeletionRequest)
    (plan : TenantOffboardingPlan) (candidates : List StorageObject) :
    Deleting TenantOffboardingDeletionResult := do
  let deletedMemoryIds ← deleteLongTermMemory plan
  let deletedShortTermMemoryCount ← deleteShortTermMemory plan
  let deletedKnowledge ← deleteKnowledge plan
  each candidates (deleteObject fails request.tenantId request.now)
  let deletedPlan ← writePlan (plan.markDeleted request.deletedByUserId request.now)
  pure {
    plan := deletedPlan
    deletedStorageObjectIds := candidates.map (·.id)
    skippedStorageObjectIds := []
    legalHoldIds := []
    preservedStorageObjectIds := plan.preservedStorageObjectIds
    deletedMemoryRecordIds := deletedMemoryIds
    deletedShortTermMemoryCount := deletedShortTermMemoryCount
    deletedKnowledgeBaseIds := deletedKnowledge.1
    deletedKnowledgeDocumentIds := deletedKnowledge.2 }

/-- `TenantOffboardingDeletionService.execute`. -/
def execute (fails : StorageObject → Bool) (request : TenantOffboardingDeletionRequest) :
    Deleting TenantOffboardingDeletionResult := do
  let plan ← consult fun s => getPlan s.plans request.tenantId request.planId
  if plan.state ≠ .deletionPending then
    raise (.transitionError
      s!"Tenant offboarding deletion cannot be started from state {plan.state.value}")
  else do
    let candidates ← read fun s => s.storageDeletionCandidates plan
    let (heldObjects, categoryHolds) ← consult fun s => s.lookups plan request.now
    if heldObjects ≠ [] ∨ categoryHolds ≠ [] then
      executeBlocked request plan heldObjects categoryHolds
    else executeDeletion fails request plan candidates

end Taroai.Lifecycle
