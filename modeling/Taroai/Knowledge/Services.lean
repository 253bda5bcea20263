import Mathlib
import Taroai.Knowledge.Retrieval
import Taroai.Lib.Table
import Taroai.Lib.Machine

/-! The knowledge services of `knowledge/service.py` and `knowledge/repository.py`: bases,
documents and their chunks in memory and in tables. Identifiers and times of creation come with
the call. The service in memory keeps the content hashes of all its documents in one set; the
tables are asked for a document of the tenant with the hash. -/

namespace Taroai.Knowledge

structure KnowledgeBaseCreate where
  workspaceId : String
  name : String
  description : Option String := none
deriving DecidableEq, Repr

structure KnowledgeBase where
  id : String
  tenantId : String
  workspaceId : String
  name : String
  description : Option String
  createdByUserId : String
  createdAt : Time
deriving DecidableEq, Repr

structure DocumentChunkCreate (F : Floats) where
  content : String
  citation : Json.Items := []
  embedding : List F.Double := []

structure KnowledgeDocumentCreate (F : Floats) where
  tenantId : String
  workspaceId : String
  knowledgeBaseId : String
  sourceUri : String
  sourceDocumentId : String
  uploadedByUserId : String
  title : String
  aclSubjects : List String := []
  sensitivityLevel : Nat := 0
  documentVersion : String
  contentHash : String
  storageObjectId : Option String := none
  chunks : List (DocumentChunkCreate F) := []

structure KnowledgeDocument where
  id : String
  tenantId : String
  workspaceId : String
  knowledgeBaseId : String
  sourceUri : String
  sourceDocumentId : String
  uploadedByUserId : String
  title : String
  aclSubjects : List String
  sensitivityLevel : Nat
  documentVersion : String
  contentHash : String
  storageObjectId : Option String
  createdAt : Time
deriving DecidableEq, Repr

structure Marks where
  id : String
  createdAt : Time
  chunkId : Nat → String
  chunkCreatedAt : Nat → Time

inductive KnowledgeError where
  | notFound (message : String)
  | value (message : String)
  | integrity
  | overflow
deriving DecidableEq, Repr

section Documents

variable {F : Floats} (request : KnowledgeDocumentCreate F) (marks : Marks)

def KnowledgeDocumentCreate.document : KnowledgeDocument where
  id := marks.id
  tenantId := request.tenantId
  workspaceId := request.workspaceId
  knowledgeBaseId := request.knowledgeBaseId
  sourceUri := request.sourceUri
  sourceDocumentId := request.sourceDocumentId
  uploadedByUserId := request.uploadedByUserId
  title := request.title
  aclSubjects := request.aclSubjects
  sensitivityLevel := request.sensitivityLevel
  documentVersion := request.documentVersion
  contentHash := request.contentHash
  storageObjectId := request.storageObjectId
  createdAt := marks.createdAt

def KnowledgeDocumentCreate.chunk (n : Nat) (chunk : DocumentChunkCreate F) : DocumentChunk F where
  id := marks.chunkId n
  tenantId := request.tenantId
  workspaceId := request.workspaceId
  knowledgeBaseId := request.knowledgeBaseId
  documentId := marks.id
  sourceDocumentId := request.sourceDocumentId
  sourceUri := request.sourceUri
  content := chunk.content
  citation := chunk.citation
  aclSubjects := request.aclSubjects
  sensitivityLevel := request.sensitivityLevel
  embedding := chunk.embedding
  createdAt := marks.chunkCreatedAt n

def KnowledgeDocumentCreate.documentChunks : List (DocumentChunk F) :=
  request.chunks.zipIdx.map fun numbered => request.chunk marks numbered.2 numbered.1

@[simp] theorem document_id : (request.document marks).id = marks.id := rfl

@[simp] theorem document_tenantId : (request.document marks).tenantId = request.tenantId := rfl

@[simp] theorem document_contentHash :
    (request.document marks).contentHash = request.contentHash := rfl

variable {request marks}

theorem mem_documentChunks {chunk : DocumentChunk F}
    (made : chunk ∈ request.documentChunks marks) :
    ∃ n content, chunk = request.chunk marks n content := by
  obtain ⟨⟨content, n⟩, -, rfl⟩ := List.mem_map.mp made
  exact ⟨n, content, rfl⟩

end Documents

inductive Call (F : Floats) where
  | createBase (tenantId userId : String) (request : KnowledgeBaseCreate) (id : String)
      (createdAt : Time)
  | registerDocument (request : KnowledgeDocumentCreate F) (marks : Marks)
  | retrieve (request : RetrievalRequest F)
  | deleteForTenant (tenantId : String)

structure KnowledgeTenantDeletionResult where
  deletedBaseIds : List String
  deletedDocumentIds : List String
  deletedChunkCount : Nat
deriving DecidableEq, Repr

inductive Answer (F : Floats) where
  | base (created : KnowledgeBase)
  | document (registered : KnowledgeDocument)
  | results (found : List (RetrievalResult F))
  | deleted (result : KnowledgeTenantDeletionResult)
  | error (raised : KnowledgeError)

section Calls

variable {F : Floats}

def Call.tenantId : Call F → String
  | .createBase tenantId .. => tenantId
  | .registerDocument request _ => request.tenantId
  | .retrieve request => request.tenantId
  | .deleteForTenant tenantId => tenantId

def chunkIds (request : KnowledgeDocumentCreate F) (marks : Marks) : List String :=
  (request.documentChunks marks).map DocumentChunk.id

def Call.ids : Call F → List String
  | .createBase _ _ _ id _ => [id]
  | .registerDocument request marks => marks.id :: chunkIds request marks
  | .retrieve _ => []
  | .deleteForTenant _ => []

def FreshIds (calls : List (Call F)) : Prop := (calls.flatMap Call.ids).Nodup

instance (calls : List (Call F)) : Decidable (FreshIds calls) :=
  inferInstanceAs (Decidable (calls.flatMap Call.ids).Nodup)

/-- Whether the call was a registration that succeeded, one that failed, or none. -/
def accepted : Call F × Answer F → Option Bool
  | (.registerDocument .., .error _) => some false
  | (.registerDocument .., _) => some true
  | _ => none

end Calls

def knowledgeBase (tenantId userId : String) (request : KnowledgeBaseCreate) (id : String)
    (createdAt : Time) : KnowledgeBase where
  id := id
  tenantId := tenantId
  workspaceId := request.workspaceId
  name := request.name
  description := request.description
  createdByUserId := userId
  createdAt := createdAt

def checkBase {F : Floats} (bases : Table KnowledgeBase.id) (request : KnowledgeDocumentCreate F) :
    Option KnowledgeError :=
  match bases.get? request.knowledgeBaseId with
  | none => some (.notFound s!"Knowledge base not found: {request.knowledgeBaseId}")
  | some base =>
    if base.tenantId ≠ request.tenantId then
      some (.notFound s!"Knowledge base not found: {request.knowledgeBaseId}")
    else if base.workspaceId ≠ request.workspaceId then
      some (.value "Knowledge document workspace does not match knowledge base workspace")
    else none

def hashTaken {F : Floats} (request : KnowledgeDocumentCreate F) : KnowledgeError :=
  .value s!"Knowledge document content hash already exists: {request.contentHash}"

def baseIds (bases : Table KnowledgeBase.id) (tenantId : String) : List String :=
  (Ranked.orderBy (fun base => toLex (base.createdAt, base.id))
    (bases.filter fun base => base.tenantId = tenantId).entries).map KnowledgeBase.id

def documentIds (documents : Table KnowledgeDocument.id) (tenantId : String) : List String :=
  (Ranked.orderBy (fun document => toLex (document.createdAt, document.id))
    (documents.filter fun document => document.tenantId = tenantId).entries).map KnowledgeDocument.id

/-- The state of `InMemoryKnowledgeService`. The lists of chunks are kept by document. -/
structure MemoryService (F : Floats) where
  bases : Table KnowledgeBase.id := .empty
  documents : Table KnowledgeDocument.id := .empty
  chunks : Table (Prod.fst (α := String) (β := List (DocumentChunk F))) := .empty
  contentHashes : Finset String := ∅

namespace MemoryService

variable {F : Floats} (lower : String → String) (service : MemoryService F)

def createBase (base : KnowledgeBase) : Answer F × MemoryService F :=
  (.base base, { service with bases := service.bases.put base })

def registerDocument (request : KnowledgeDocumentCreate F) (marks : Marks) :
    Answer F × MemoryService F :=
  match checkBase service.bases request with
  | some raised => (.error raised, service)
  | none =>
    if request.contentHash ∈ service.contentHashes then (.error (hashTaken request), service)
    else
      (.document (request.document marks),
        { service with
          documents := service.documents.put (request.document marks)
          chunks := service.chunks.put (marks.id, request.documentChunks marks)
          contentHashes := insert request.contentHash service.contentHashes })

def retrieve (request : RetrievalRequest F) : List (RetrievalResult F) :=
  InMemoryKnowledgeService.retrieve lower ⟨service.chunks.entries⟩ request

def ownDocuments (tenantId : String) : List KnowledgeDocument :=
  (service.documents.filter fun document => document.tenantId = tenantId).entries

def chunkCount (tenantId : String) : Nat :=
  ((service.ownDocuments tenantId).map fun document =>
    ((service.chunks.get? document.id).map fun entry => entry.2.length).getD 0).sum

def deleteForTenant (tenantId : String) : Answer F × MemoryService F :=
  let documents := service.ownDocuments tenantId
  (.deleted
    { deletedBaseIds := baseIds service.bases tenantId
      deletedDocumentIds := documentIds service.documents tenantId
      deletedChunkCount := service.chunkCount tenantId },
    { bases := service.bases.filter fun base => base.tenantId ≠ tenantId
      documents := service.documents.filter fun document => document.tenantId ≠ tenantId
      chunks := service.chunks.filter fun entry => entry.1 ∉ documents.map KnowledgeDocument.id
      contentHashes := service.contentHashes.filter fun contentHash =>
        contentHash ∉ documents.map KnowledgeDocument.contentHash })

def step (service : MemoryService F) : Call F → Answer F × MemoryService F
  | .createBase tenantId userId request id createdAt =>
    service.createBase (knowledgeBase tenantId userId request id createdAt)
  | .registerDocument request marks => service.registerDocument request marks
  | .retrieve request => (.results (service.retrieve lower request), service)
  | .deleteForTenant tenantId => service.deleteForTenant tenantId

end MemoryService

/-- The tables of `SqlKnowledgeService`. -/
structure SqlService (F : Floats) where
  bases : Table KnowledgeBase.id := .empty
  documents : Table KnowledgeDocument.id := .empty
  chunks : SqlKnowledgeService F := ⟨[], List.nodup_nil⟩

namespace SqlService

variable {F : Floats} (lower : String → String) (maxInteger : Nat) (service : SqlService F)

def createBase (base : KnowledgeBase) : Answer F × SqlService F :=
  match service.bases.get? base.id with
  | some _ => (.error .integrity, service)
  | none => (.base base, { service with bases := service.bases.put base })

/-- A failed `INSERT` rolls the registration back. An integer column holds levels up to
`maxInteger`. -/
def registerDocument (request : KnowledgeDocumentCreate F) (marks : Marks) :
    Answer F × SqlService F :=
  match checkBase service.bases request with
  | some raised => (.error raised, service)
  | none =>
    if ∃ document ∈ service.documents.entries,
        document.tenantId = request.tenantId ∧ document.contentHash = request.contentHash then
      (.error (hashTaken request), service)
    else if maxInteger < request.sensitivityLevel then (.error .overflow, service)
    else
      match service.documents.get? marks.id with
      | some _ => (.error .integrity, service)
      | none =>
        if ids : ((service.chunks.rows ++ request.documentChunks marks).map
            DocumentChunk.id).Nodup then
          (.document (request.document marks),
            { service with
              documents := service.documents.put (request.document marks)
              chunks := ⟨service.chunks.rows ++ request.documentChunks marks, ids⟩ })
        else (.error .integrity, service)

def deleteForTenant (tenantId : String) : Answer F × SqlService F :=
  (.deleted
    { deletedBaseIds := baseIds service.bases tenantId
      deletedDocumentIds := documentIds service.documents tenantId
      deletedChunkCount := service.chunks.rows.countP fun chunk => chunk.tenantId = tenantId },
    { bases := service.bases.filter fun base => base.tenantId ≠ tenantId
      documents := service.documents.filter fun document => document.tenantId ≠ tenantId
      chunks := ⟨service.chunks.rows.filter fun chunk => chunk.tenantId ≠ tenantId,
        (List.filter_sublist.map DocumentChunk.id).nodup service.chunks.ids⟩ })

def step (service : SqlService F) : Call F → Answer F × SqlService F
  | .createBase tenantId userId request id createdAt =>
    service.createBase (knowledgeBase tenantId userId request id createdAt)
  | .registerDocument request marks => service.registerDocument maxInteger request marks
  | .retrieve request => (.results (service.chunks.retrieve lower request), service)
  | .deleteForTenant tenantId => service.deleteForTenant tenantId

end SqlService

end Taroai.Knowledge
