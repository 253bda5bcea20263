import Taroai.Knowledge.Noninterference
import Taroai.Knowledge.Services
import Taroai.Workers.ConnectorSync

/-! Connector sync into a knowledge service: the access mapping and the planner of
`connectors/sync.py`, the route that enqueues a job and the loop of the worker that registers its
documents. Queue, meters and states of the sync are in the model of the worker's attempts. -/

namespace Taroai.Connectors

open Knowledge

inductive SourceAclPrincipalType where
  | user
  | group
  | domain
  | role
  | serviceAccount
deriving DecidableEq, Repr

structure SourceAclPrincipal where
  sourcePrincipalId : String
  principalType : SourceAclPrincipalType
deriving DecidableEq, Repr

structure ConnectorAclMappingRule where
  sourcePrincipalId : String
  aclSubject : String
deriving DecidableEq, Repr

structure ConnectorAclMapping where
  rules : List ConnectorAclMappingRule := []
deriving DecidableEq, Repr

namespace ConnectorAclMapping

/-- `by_source_id`: the last rule of a principal counts. -/
def subjectOf (mapping : ConnectorAclMapping) (principal : SourceAclPrincipal) : Option String :=
  (mapping.rules.reverse.find? fun rule =>
    rule.sourcePrincipalId = principal.sourcePrincipalId).map ConnectorAclMappingRule.aclSubject

/-- `map_principals` -/
def mapPrincipals (mapping : ConnectorAclMapping) (principals : List SourceAclPrincipal) :
    List String :=
  Workers.mapPrincipals (mapping.rules.map fun rule => (rule.sourcePrincipalId, rule.aclSubject))
    (principals.map SourceAclPrincipal.sourcePrincipalId)

end ConnectorAclMapping

variable {F : Floats}

structure ConnectorSyncDocument (F : Floats) where
  tenantId : String
  workspaceId : String
  connectorId : String
  sourceUri : String
  sourceDocumentId : String
  title : String
  documentVersion : String
  contentHash : String
  sensitivityLevel : Nat := 0
  sourceAcl : List SourceAclPrincipal := []
  chunks : List (DocumentChunkCreate F) := []

structure ConnectorSyncJobCreate (F : Floats) where
  knowledgeBaseId : String
  documents : List (ConnectorSyncDocument F) := []
  aclMapping : ConnectorAclMapping := {}

structure ConnectorSyncJob (F : Floats) where
  tenantId : String
  workspaceId : String
  connectorId : String
  knowledgeBaseId : String
  requestedByUserId : String
  documents : List (ConnectorSyncDocument F)
  aclMapping : ConnectorAclMapping

structure RequestContext where
  tenantId : String
  userId : String
deriving DecidableEq, Repr

structure ConnectorDefinition where
  id : String
  workspaceId : String
deriving DecidableEq, Repr

def refusal (context : RequestContext) (connector : ConnectorDefinition)
    (document : ConnectorSyncDocument F) : Option String :=
  if document.tenantId ≠ context.tenantId then some "connector sync document is not in tenant"
  else if document.workspaceId ≠ connector.workspaceId then
    some "connector sync document is not in workspace"
  else if document.connectorId ≠ connector.id then
    some "connector sync document does not match connector"
  else none

/-- The job that `enqueue_connector_sync_job` puts in the queue. -/
def enqueueConnectorSyncJob (context : RequestContext) (connector : ConnectorDefinition)
    (payload : ConnectorSyncJobCreate F) : Except String (ConnectorSyncJob F) :=
  match payload.documents.findSome? (refusal context connector) with
  | some message => .error message
  | none => .ok
    { tenantId := context.tenantId
      workspaceId := connector.workspaceId
      connectorId := connector.id
      knowledgeBaseId := payload.knowledgeBaseId
      requestedByUserId := context.userId
      documents := payload.documents
      aclMapping := payload.aclMapping }

/-- `plan_knowledge_ingestion` -/
def ConnectorSyncJob.plan (job : ConnectorSyncJob F) (document : ConnectorSyncDocument F) :
    KnowledgeDocumentCreate F where
  tenantId := document.tenantId
  workspaceId := document.workspaceId
  knowledgeBaseId := job.knowledgeBaseId
  sourceUri := document.sourceUri
  sourceDocumentId := document.sourceDocumentId
  uploadedByUserId := job.requestedByUserId
  title := document.title
  aclSubjects := job.aclMapping.mapPrincipals document.sourceAcl
  sensitivityLevel := document.sensitivityLevel
  documentVersion := document.documentVersion
  contentHash := document.contentHash
  chunks := document.chunks

/-- A knowledge service as the worker and the readers use it: a document or chunk that is there
after a call was there before or is the registration's, and what is returned is of a chunk that
may be read. -/
structure KnowledgeStore (F : Floats) where
  State : Type
  empty : State
  step : State → Call F → Answer F × State
  documents : State → List KnowledgeDocument
  chunks : State → List (DocumentChunk F)
  retrieve : State → RetrievalRequest F → List (RetrievalResult F)
  documents_empty : documents empty = []
  chunks_empty : chunks empty = []
  documents_step : ∀ s call, ∀ document ∈ documents (step s call).2, document ∈ documents s ∨
    ∃ request marks, call = .registerDocument request marks ∧ document = request.document marks
  chunks_step : ∀ s call, ∀ chunk ∈ chunks (step s call).2, chunk ∈ chunks s ∨
    ∃ request marks, call = .registerDocument request marks ∧ chunk ∈ request.documentChunks marks
  retrieved : ∀ s request, ∀ result ∈ retrieve s request, ∃ chunk ∈ chunks s,
    Readable chunk request ∧ result.documentId = chunk.documentId

/-- The loop of `_sync_documents` from the document with the number on; a registration that
raises ends it. -/
def syncDocuments (store : KnowledgeStore F) (job : ConnectorSyncJob F) (marks : Nat → Marks) :
    Nat → List (ConnectorSyncDocument F) → store.State → store.State
  | _, [], s => s
  | n, document :: rest, s =>
    match store.step s (.registerDocument (job.plan document) (marks n)) with
    | (.error _, s) => s
    | (_, s) => syncDocuments store job marks (n + 1) rest s

inductive Event (F : Floats) where
  | call (made : Call F)
  | sync (job : ConnectorSyncJob F) (marks : Nat → Marks)

def Event.requests : Event F → List (KnowledgeDocumentCreate F × Marks)
  | .call (.registerDocument request marks) => [(request, marks)]
  | .call _ => []
  | .sync job marks => job.documents.zipIdx.map fun numbered =>
      (job.plan numbered.1, marks numbered.2)

namespace KnowledgeStore

variable (store : KnowledgeStore F)

def perform (s : store.State) : Event F → store.State
  | .call made => (store.step s made).2
  | .sync job marks => syncDocuments store job marks 0 job.documents s

def after (events : List (Event F)) : store.State := events.foldl store.perform store.empty

end KnowledgeStore

end Taroai.Connectors
