import Taroai.Clock
import Taroai.Lib.Table

/-! Idempotency records: the store operations of `store.py` and the helpers of
`api/idempotency.py`. The four components of the record key stay one value, as the store
joins them into one. A response body is the pending marker of a reservation or the dump of
a result; a dump has no key that starts with an underscore, so it is never the marker. -/

namespace Taroai.Store

structure IdempotencyScope where
  tenantId : String
  key : String
  method : String
  path : String
deriving DecidableEq, Repr

inductive ResponseBody (J : Type) where
  | pendingMarker
  | result (json : J)
deriving DecidableEq, Repr

structure IdempotencyRecord (J : Type) where
  scope : IdempotencyScope
  requestHash : String
  statusCode : Nat
  responseBody : ResponseBody J
  createdAt : Time
deriving DecidableEq, Repr

structure IdempotencyRequest where
  scope : IdempotencyScope
  requestHash : String
deriving DecidableEq, Repr

/-- `IdempotencyConflictError`. -/
structure IdempotencyConflict where
  message : String
deriving DecidableEq, Repr

abbrev IdempotencyRecords (J : Type) := Table (IdempotencyRecord.scope (J := J))

variable {J : Type}

def buildIdempotencyRecord (request : IdempotencyRequest) (statusCode : Nat)
    (responseBody : ResponseBody J) (now : Time) : IdempotencyRecord J where
  scope := request.scope
  requestHash := request.requestHash
  statusCode := statusCode
  responseBody := responseBody
  createdAt := now

namespace IdempotencyRecords

def reserve (records : IdempotencyRecords J) (record : IdempotencyRecord J) :
    Bool × IdempotencyRecords J :=
  match records.get? record.scope with
  | some _ => (false, records)
  | none => (true, records.put record)

def reclaimable (existing record : IdempotencyRecord J) (staleBefore : Time) : Bool :=
  decide (existing.requestHash = record.requestHash) && decide (existing.statusCode = 102) &&
    decide (existing.createdAt ≤ staleBefore)

def reclaimStale (records : IdempotencyRecords J) (record : IdempotencyRecord J)
    (staleBefore : Time) : Bool × IdempotencyRecords J :=
  match records.get? record.scope with
  | none => (false, records)
  | some existing =>
    if reclaimable existing record staleBefore then (true, records.put record)
    else (false, records)

def delete (records : IdempotencyRecords J) (request : IdempotencyRequest) :
    IdempotencyRecords J :=
  match records.get? request.scope with
  | none => records
  | some record =>
    if record.requestHash = request.requestHash then records.erase request.scope else records

def save (records : IdempotencyRecords J) (record : IdempotencyRecord J) :
    IdempotencyRecords J := records.put record

def findReplay (records : IdempotencyRecords J) (request : IdempotencyRequest) :
    Except IdempotencyConflict (Option (IdempotencyRecord J)) :=
  match records.get? request.scope with
  | none => .ok none
  | some record =>
    if record.requestHash = request.requestHash then .ok (some record)
    else .error ⟨"Idempotency-Key reused with a different request body"⟩

theorem get?_of_findReplay {records : IdempotencyRecords J} {request : IdempotencyRequest}
    {record : IdempotencyRecord J} (found : records.findReplay request = .ok (some record)) :
    records.get? request.scope = some record := by
  unfold findReplay at found
  split at found
  · cases found
  · next stored present =>
    split at found
    · cases found
      exact present
    · cases found

theorem findReplay_of_get? {records : IdempotencyRecords J} {request : IdempotencyRequest}
    {record : IdempotencyRecord J} (present : records.get? request.scope = some record)
    (same : record.requestHash = request.requestHash) :
    records.findReplay request = .ok (some record) := by
  simp only [findReplay, present, same, if_true]

theorem get?_delete_of_same {records : IdempotencyRecords J} {request : IdempotencyRequest}
    {record : IdempotencyRecord J} (present : records.get? request.scope = some record)
    (same : record.requestHash = request.requestHash) :
    (records.delete request).get? request.scope = none := by
  simp only [delete, present, same, if_true, Table.get?_erase]

theorem status_of_reclaimable {existing record : IdempotencyRecord J} {staleBefore : Time}
    (stale : reclaimable existing record staleBefore = true) : existing.statusCode = 102 := by
  simp only [reclaimable, Bool.and_eq_true, decide_eq_true_eq] at stale
  exact stale.1.2

end IdempotencyRecords

end Taroai.Store
