import Taroai.Domain
import Taroai.Knowledge.Registration
import Taroai.Workers.MemoryQueue

/-! `workers/connector_sync_worker.py` over the queue in memory. One attempt claims a job,
registers its documents from the first on, records the meter and the audit event of the sync, and
then acknowledges or rejects the job and writes the status of the run. A store call may raise for
a reason of its own, before or after it has written. The state of the connector's sync, run events
and audit events are left out. -/

namespace Taroai.Workers

open Knowledge.Registration (KnowledgeDocument KnowledgeService)

structure ConnectorSyncDocument where
  tenantId : String
  workspaceId : String
  sourceUri : String
  sourceDocumentId : String
  title : String
  documentVersion : String
  contentHash : String
  sensitivityLevel : Nat := 0
  sourceAcl : List String := []
  chunks : List String := []
deriving DecidableEq, Repr

structure ConnectorSyncJob where
  tenantId : String
  workspaceId : String
  connectorId : String
  runId : String
  knowledgeBaseId : String
  requestedByUserId : String
  documents : List ConnectorSyncDocument
  /-- The subject of a source principal, a later rule before an earlier one. -/
  aclMapping : List (String × String) := []
deriving DecidableEq, Repr

/-- `map_principals` -/
def mapPrincipals (rules : List (String × String)) (principals : List String) : List String :=
  principals.foldl
    (fun subjects principal =>
      match rules.reverse.find? fun rule => rule.1 = principal with
      | some (_, subject) => if subject ∈ subjects then subjects else subjects ++ [subject]
      | none => subjects)
    []

/-- `plan_knowledge_ingestion` -/
def ConnectorSyncJob.plan (job : ConnectorSyncJob) (document : ConnectorSyncDocument) :
    KnowledgeDocument where
  tenantId := document.tenantId
  workspaceId := document.workspaceId
  knowledgeBaseId := job.knowledgeBaseId
  sourceUri := document.sourceUri
  sourceDocumentId := document.sourceDocumentId
  uploadedByUserId := job.requestedByUserId
  title := document.title
  aclSubjects := mapPrincipals job.aclMapping document.sourceAcl
  sensitivityLevel := document.sensitivityLevel
  documentVersion := document.documentVersion
  contentHash := document.contentHash
  chunks := document.chunks

structure MeterEvent where
  tenantId : String
  runId : String
  meterType : String
  quantity : Nat
deriving DecidableEq, Repr

def connectorSyncDocumentMeter : String := "connector_sync_document_count"

/-- The stores that the worker writes. A run is named by its tenant and its identifier. -/
structure SyncSystem where
  queue : InMemoryJobQueue ConnectorSyncJob
  knowledge : KnowledgeService
  meters : List MeterEvent := []
  runs : String × String → RunStatus

inductive Fault where
  | beforeWrite (message : String)
  | afterWrite (message : String)
deriving DecidableEq, Repr

structure Faults where
  startedAudit : Bool := false
  /-- Of registering the document with the number. -/
  register : Nat → Option Fault := fun _ => none
  meter : Option Fault := none
  connectorAudit : Option String := none

structure Faults.Undisturbed (faults : Faults) (payload : ConnectorSyncJob) : Prop where
  register : ∀ n < payload.documents.length, faults.register n = none
  meter : faults.meter = none
  connectorAudit : faults.connectorAudit = none

structure ConnectorSyncWorker where
  workerId : String := "connector_sync_worker"
  leaseSeconds : Int := 300
  retryDelaySeconds : Int := 30
deriving DecidableEq, Repr

def ConnectorSyncJob.runKey (payload : ConnectorSyncJob) : String × String :=
  (payload.tenantId, payload.runId)

namespace SyncSystem

/-- The loop of `_sync_documents` from the document with the number on. -/
def registerDocuments (payload : ConnectorSyncJob) (faults : Nat → Option Fault) :
    Nat → List ConnectorSyncDocument → KnowledgeService → Except String Unit × KnowledgeService
  | _, [], service => (.ok (), service)
  | n, document :: rest, service =>
    match faults n, service.register (payload.plan document) with
    | some (.beforeWrite message), _ => (.error message, service)
    | _, .error message => (.error message, service)
    | some (.afterWrite message), .ok service => (.error message, service)
    | none, .ok service => registerDocuments payload faults (n + 1) rest service

def recordMeter (s : SyncSystem) (payload : ConnectorSyncJob) : SyncSystem :=
  { s with
    meters := s.meters ++
      [{ tenantId := payload.tenantId
         runId := payload.runId
         meterType := connectorSyncDocumentMeter
         quantity := payload.documents.length }] }

/-- `_sync_documents` -/
def syncDocuments (s : SyncSystem) (payload : ConnectorSyncJob) (faults : Faults) :
    Except String Unit × SyncSystem :=
  let (registered, knowledge) :=
    registerDocuments payload faults.register 0 payload.documents s.knowledge
  let s := { s with knowledge := knowledge }
  match registered, faults.meter, faults.connectorAudit with
  | .error message, _, _ => (.error message, s)
  | .ok (), some (.beforeWrite message), _ => (.error message, s)
  | .ok (), some (.afterWrite message), _ => (.error message, s.recordMeter payload)
  | .ok (), none, some message => (.error message, s.recordMeter payload)
  | .ok (), none, none => (.ok (), s.recordMeter payload)

def updateRunStatus (s : SyncSystem) (payload : ConnectorSyncJob) (status : RunStatus) :
    SyncSystem :=
  { s with runs := fun key => if key = payload.runKey then status else s.runs key }

/-- What follows the claim of a job: an exception of the first audit call leaves it running. -/
def attempt (worker : ConnectorSyncWorker) (s : SyncSystem) (job : JobEnvelope ConnectorSyncJob)
    (now : Time) (faults : Faults) : SyncSystem :=
  if faults.startedAudit then s
  else
    match s.syncDocuments job.payload faults with
    | (.error message, s) =>
      match InMemoryJobQueue.reject s.queue job.id message now worker.retryDelaySeconds with
      | .ok (_, queue) => { s with queue := queue }.updateRunStatus job.payload .failed
      | .error _ => s
    | (.ok (), s) =>
      match InMemoryJobQueue.ack s.queue job.id now with
      | .ok (_, queue) => { s with queue := queue }.updateRunStatus job.payload .succeeded
      | .error _ => s

def claim (worker : ConnectorSyncWorker) (s : SyncSystem) (now : Time) :
    Option (JobEnvelope ConnectorSyncJob) × InMemoryJobQueue ConnectorSyncJob :=
  InMemoryJobQueue.claim s.queue .connectorSync worker.workerId now worker.leaseSeconds

/-- `process_next` -/
def processNext (worker : ConnectorSyncWorker) (s : SyncSystem) (now : Time) (faults : Faults) :
    SyncSystem :=
  match claim worker s now with
  | (none, queue) => { s with queue := queue }
  | (some job, queue) => attempt worker { s with queue := queue } job now faults

def step (worker : ConnectorSyncWorker) (s : SyncSystem) (call : Time × Faults) :
    Option SyncSystem :=
  some (processNext worker s call.1 call.2)

end SyncSystem

end Taroai.Workers
