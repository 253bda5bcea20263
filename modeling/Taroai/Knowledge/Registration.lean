import Taroai.Lib.Table

/-! `InMemoryKnowledgeService.register_document` of `knowledge/service.py`. The service keeps the
content hashes of its documents in a set of their own and refuses a document whose hash is there,
so no two documents have one hash. -/

namespace Taroai.Knowledge.Registration

structure KnowledgeBase where
  id : String
  tenantId : String
  workspaceId : String
deriving DecidableEq, Repr

structure KnowledgeDocument where
  tenantId : String
  workspaceId : String
  knowledgeBaseId : String
  sourceUri : String
  sourceDocumentId : String
  uploadedByUserId : String
  title : String
  aclSubjects : List String
  sensitivityLevel : Nat
  documentVersion : String
  contentHash : String
  chunks : List String
deriving DecidableEq, Repr

structure KnowledgeService where
  bases : Table KnowledgeBase.id := .empty
  documents : List KnowledgeDocument := []
  contentHashes : List String := []
  same_hashes : documents.map KnowledgeDocument.contentHash = contentHashes := by rfl
  nodup : contentHashes.Nodup := by decide

namespace KnowledgeService

variable (service : KnowledgeService)

/-- The knowledge base is there, in the tenant and the workspace of the document. -/
def Accepts (request : KnowledgeDocument) : Prop :=
  ∃ base, service.bases.get? request.knowledgeBaseId = some base ∧
    base.tenantId = request.tenantId ∧ base.workspaceId = request.workspaceId

def add (request : KnowledgeDocument) (fresh : request.contentHash ∉ service.contentHashes) :
    KnowledgeService where
  bases := service.bases
  documents := service.documents ++ [request]
  contentHashes := service.contentHashes ++ [request.contentHash]
  same_hashes := by rw [List.map_append, service.same_hashes]; rfl
  nodup := by
    refine List.nodup_append.mpr ⟨service.nodup, List.nodup_singleton _, ?_⟩
    rintro a member b here rfl
    exact fresh (List.mem_singleton.mp here ▸ member)

/-- `register_document` -/
def register (request : KnowledgeDocument) : Except String KnowledgeService :=
  match service.bases.get? request.knowledgeBaseId with
  | none => .error s!"Knowledge base not found: {request.knowledgeBaseId}"
  | some base =>
    if base.tenantId ≠ request.tenantId then
      .error s!"Knowledge base not found: {request.knowledgeBaseId}"
    else if base.workspaceId ≠ request.workspaceId then
      .error "Knowledge document workspace does not match knowledge base workspace"
    else if stored : request.contentHash ∈ service.contentHashes then
      .error s!"Knowledge document content hash already exists: {request.contentHash}"
    else .ok (service.add request stored)

variable {service} {request : KnowledgeDocument} {later : KnowledgeService}

theorem register_eq_ok :
    service.register request = .ok later ↔
      service.Accepts request ∧
        ∃ fresh : request.contentHash ∉ service.contentHashes, service.add request fresh = later := by
  unfold register Accepts
  cases service.bases.get? request.knowledgeBaseId with
  | none => simp
  | some base =>
    simp only [Option.some.injEq, exists_eq_left']
    split
    · next other => simp [other]
    split
    · next other => simp [other]
    split
    · next stored => simp [stored]
    · next tenant workspace stored =>
      rw [not_not] at tenant workspace
      simp [tenant, workspace, stored]

def registrations (service : KnowledgeService) (contentHash : String) : Nat :=
  service.documents.countP fun document => document.contentHash = contentHash

theorem registrations_eq_count (service : KnowledgeService) (contentHash : String) :
    service.registrations contentHash = service.contentHashes.count contentHash := by
  rw [← service.same_hashes, List.count, List.countP_map]
  exact List.countP_congr fun document _ => by simp

theorem registrations_le_one (service : KnowledgeService) (contentHash : String) :
    service.registrations contentHash ≤ 1 := by
  rw [registrations_eq_count]
  exact List.nodup_iff_count_le_one.mp service.nodup contentHash

theorem registrations_eq_one (stored : contentHash ∈ service.contentHashes) :
    service.registrations contentHash = 1 := by
  rw [registrations_eq_count]
  exact List.count_eq_one_of_mem service.nodup stored

end KnowledgeService

end Taroai.Knowledge.Registration
