import Mathlib.Data.Prod.Lex
import Mathlib.Data.String.Basic
import Taroai.Lib.Json
import Taroai.Lib.Ranked
import Taroai.Lib.Table
import Taroai.Store.TextTimes

/-! The long-term memory services of `memory/service.py` and `memory/repository.py`. The service
in memory lists the records of a scope by status; the table also compares the text of `expires_at`
with that of the present. The identifier and the times of a call come with it. -/

namespace Taroai.Memory

open Store (isoformat isoformatOf)

inductive MemoryScopeType where
  | user
  | team
  | company
  | agent
  | task
deriving DecidableEq, Repr

inductive MemoryStatus where
  | candidate
  | active
  | rejected
  | expired
deriving DecidableEq, Repr

structure MemoryWriteRequest where
  tenantId : String
  workspaceId : String
  scopeType : MemoryScopeType
  scopeId : String
  sourceRunId : String
  content : String
  createdBy : String
  metadata : Json.Items := []
  sensitivityLevel : Int := 0
  expiresAt : Option DateTime := none
  status : MemoryStatus := .active

structure MemoryRecord where
  id : String
  tenantId : String
  workspaceId : String
  scopeType : MemoryScopeType
  scopeId : String
  sourceRunId : String
  content : String
  createdBy : String
  metadata : Json.Items
  sensitivityLevel : Int
  createdAt : Time
  expiresAt : Option DateTime
  status : MemoryStatus

def MemoryWriteRequest.record (request : MemoryWriteRequest) (id : String) (createdAt : Time) :
    MemoryRecord where
  id := id
  tenantId := request.tenantId
  workspaceId := request.workspaceId
  scopeType := request.scopeType
  scopeId := request.scopeId
  sourceRunId := request.sourceRunId
  content := request.content
  createdBy := request.createdBy
  metadata := request.metadata
  sensitivityLevel := request.sensitivityLevel
  createdAt := createdAt
  expiresAt := request.expiresAt
  status := request.status

namespace MemoryRecord

def withStatus (status : MemoryStatus) (record : MemoryRecord) : MemoryRecord :=
  { record with status := status }

def forgotten (now : Time) (record : MemoryRecord) : MemoryRecord :=
  { record with
    content := ""
    metadata := []
    status := .expired
    expiresAt := some (DateTime.utc now) }

def deleted (record : MemoryRecord) : MemoryRecord :=
  { record with
    content := ""
    metadata := []
    status := .expired }

@[simp] theorem withStatus_id (status : MemoryStatus) (record : MemoryRecord) :
    (record.withStatus status).id = record.id := rfl

@[simp] theorem forgotten_id (now : Time) (record : MemoryRecord) :
    (record.forgotten now).id = record.id := rfl

def Deletes (tenantId : String) (record : MemoryRecord) : Prop :=
  record.tenantId = tenantId ∧ record.status ≠ .expired

instance (tenantId : String) (record : MemoryRecord) : Decidable (record.Deletes tenantId) :=
  inferInstanceAs (Decidable (_ ∧ _))

def InScope (tenantId : String) (scopeType : MemoryScopeType) (scopeId : String)
    (record : MemoryRecord) : Prop :=
  record.tenantId = tenantId ∧ record.scopeType = scopeType ∧ record.scopeId = scopeId

instance (tenantId : String) (scopeType : MemoryScopeType) (scopeId : String)
    (record : MemoryRecord) : Decidable (record.InScope tenantId scopeType scopeId) :=
  inferInstanceAs (Decidable (_ ∧ _))

end MemoryRecord

inductive MemoryError where
  | notFound (message : String)
  | tenantAccess (message : String)
deriving DecidableEq, Repr

inductive Operation where
  | write (request : MemoryWriteRequest) (id : String) (createdAt : Time)
  | proposeCandidate (request : MemoryWriteRequest) (id : String) (createdAt : Time)
  | approve (tenantId memoryId reviewedByUserId : String)
  | reject (tenantId memoryId reviewedByUserId : String)
  | forget (tenantId memoryId : String) (now : Time)
  | deleteForTenant (tenantId : String)

def Operation.newId : Operation → Option String
  | .write _ id _ => some id
  | .proposeCandidate _ id _ => some id
  | _ => none

/-- `InMemoryLongTermMemoryService` -/
structure LongTermMemory where
  records : Table MemoryRecord.id := .empty

namespace LongTermMemory

variable (service : LongTermMemory)

def write (request : MemoryWriteRequest) (id : String) (createdAt : Time) : LongTermMemory :=
  ⟨service.records.put (request.record id createdAt)⟩

def proposeCandidate (request : MemoryWriteRequest) (id : String) (createdAt : Time) :
    LongTermMemory :=
  service.write { request with status := .candidate } id createdAt

def get (tenantId memoryId : String) : Except MemoryError MemoryRecord :=
  match service.records.get? memoryId with
  | none => .error (.notFound s!"Memory not found: {memoryId}")
  | some record =>
    if record.tenantId ≠ tenantId then
      .error (.tenantAccess s!"Memory {memoryId} is not in tenant {tenantId}")
    else .ok record

/-- `get`, and what the operation makes of the record stored in its place. -/
def rewrite (tenantId memoryId : String) (change : MemoryRecord → MemoryRecord) :
    Except MemoryError LongTermMemory :=
  match service.get tenantId memoryId with
  | .error raised => .error raised
  | .ok record => .ok ⟨service.records.put (change record)⟩

def approve (tenantId memoryId _reviewedByUserId : String) : Except MemoryError LongTermMemory :=
  service.rewrite tenantId memoryId (MemoryRecord.withStatus .active)

def reject (tenantId memoryId _reviewedByUserId : String) : Except MemoryError LongTermMemory :=
  service.rewrite tenantId memoryId (MemoryRecord.withStatus .rejected)

def forget (tenantId memoryId : String) (now : Time) : Except MemoryError LongTermMemory :=
  service.rewrite tenantId memoryId (MemoryRecord.forgotten now)

def deleteForTenant (tenantId : String) : LongTermMemory :=
  ⟨service.records.map (fun record => if record.Deletes tenantId then record.deleted else record)
    fun record => by split <;> rfl⟩

def listByScope (tenantId : String) (scopeType : MemoryScopeType) (scopeId : String)
    (status : MemoryStatus) : List MemoryRecord :=
  service.records.entries.filter fun record =>
    record.InScope tenantId scopeType scopeId ∧ record.status = status

def perform (service : LongTermMemory) : Operation → LongTermMemory
  | .write request id createdAt => service.write request id createdAt
  | .proposeCandidate request id createdAt => service.proposeCandidate request id createdAt
  | .approve tenantId memoryId user => (service.approve tenantId memoryId user).toOption.getD service
  | .reject tenantId memoryId user => (service.reject tenantId memoryId user).toOption.getD service
  | .forget tenantId memoryId now => (service.forget tenantId memoryId now).toOption.getD service
  | .deleteForTenant tenantId => service.deleteForTenant tenantId

end LongTermMemory

/-- The rows of `memory_records`; the identifier is the primary key. -/
structure MemoryTable where
  rows : Table MemoryRecord.id := .empty

namespace MemoryTable

variable (table : MemoryTable)

def write (request : MemoryWriteRequest) (id : String) (createdAt : Time) : Option MemoryTable :=
  match table.rows.get? id with
  | some _ => none
  | none => some ⟨table.rows.put (request.record id createdAt)⟩

def proposeCandidate (request : MemoryWriteRequest) (id : String) (createdAt : Time) :
    Option MemoryTable :=
  table.write { request with status := .candidate } id createdAt

def get (tenantId memoryId : String) : Except MemoryError MemoryRecord :=
  match table.rows.get? memoryId with
  | none => .error (.notFound s!"Memory not found: {memoryId}")
  | some row =>
    -- the row of another tenant is not selected
    if row.tenantId = tenantId then .ok row
    else .error (.notFound s!"Memory not found: {memoryId}")

/-- `UPDATE … WHERE tenant_id = ? AND id = ?` behind `get`. -/
def rewrite (tenantId memoryId : String) (change : MemoryRecord → MemoryRecord)
    (keeps : ∀ row, (change row).id = row.id) : Except MemoryError MemoryTable :=
  match table.get tenantId memoryId with
  | .error raised => .error raised
  | .ok _ => .ok ⟨table.rows.map
      (fun row => if row.tenantId = tenantId ∧ row.id = memoryId then change row else row)
      fun row => by
        split
        · exact keeps row
        · rfl⟩

def approve (tenantId memoryId _reviewedByUserId : String) : Except MemoryError MemoryTable :=
  table.rewrite tenantId memoryId (MemoryRecord.withStatus .active) fun _ => rfl

def reject (tenantId memoryId _reviewedByUserId : String) : Except MemoryError MemoryTable :=
  table.rewrite tenantId memoryId (MemoryRecord.withStatus .rejected) fun _ => rfl

def forget (tenantId memoryId : String) (now : Time) : Except MemoryError MemoryTable :=
  table.rewrite tenantId memoryId (MemoryRecord.forgotten now) fun _ => rfl

def deleteForTenant (tenantId : String) : MemoryTable :=
  ⟨table.rows.map (fun row => if row.Deletes tenantId then row.deleted else row)
    fun row => by split <;> rfl⟩

/-- `expires_at IS NULL OR expires_at > ?` -/
def unexpired (now : Time) (row : MemoryRecord) : Bool :=
  row.expiresAt.all fun expiresAt => isoformat now < isoformatOf expiresAt

def listByScope (tenantId : String) (scopeType : MemoryScopeType) (scopeId : String)
    (status : MemoryStatus) (now : Time) : List MemoryRecord :=
  Ranked.orderBy (fun row => toLex (row.createdAt, row.id))
    (table.rows.entries.filter fun row =>
      (row.InScope tenantId scopeType scopeId ∧ row.status = status) ∧ unexpired now row)

def perform (table : MemoryTable) : Operation → MemoryTable
  | .write request id createdAt => (table.write request id createdAt).getD table
  | .proposeCandidate request id createdAt => (table.proposeCandidate request id createdAt).getD table
  | .approve tenantId memoryId user => (table.approve tenantId memoryId user).toOption.getD table
  | .reject tenantId memoryId user => (table.reject tenantId memoryId user).toOption.getD table
  | .forget tenantId memoryId now => (table.forget tenantId memoryId now).toOption.getD table
  | .deleteForTenant tenantId => table.deleteForTenant tenantId

end MemoryTable

end Taroai.Memory
