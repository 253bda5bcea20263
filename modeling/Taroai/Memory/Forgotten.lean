import Taroai.Lib.Machine
import Taroai.Memory.LongTerm

/-! Forgotten, deleted and expired memories. The two services hold the same records whatever is
done; they list them differently, and an approval makes any record active. -/

namespace Taroai.Memory

open Store (isoformat isoformatOf)

def FreshIds (operations : List Operation) : Prop := (operations.filterMap Operation.newId).Nodup

instance (operations : List Operation) : Decidable (FreshIds operations) :=
  inferInstanceAs (Decidable (operations.filterMap Operation.newId).Nodup)

def LongTermMemory.after (operations : List Operation) : LongTermMemory :=
  operations.foldl LongTermMemory.perform {}

def MemoryTable.after (operations : List Operation) : MemoryTable :=
  operations.foldl MemoryTable.perform {}

def Operation.Removes : Operation → MemoryRecord → Prop
  | .forget tenantId memoryId _, record => record.tenantId = tenantId ∧ record.id = memoryId
  | .deleteForTenant tenantId, record => record.tenantId = tenantId
  | _, _ => False

instance : (operation : Operation) → (record : MemoryRecord) → Decidable (operation.Removes record)
  | .forget _ _ _, _ => inferInstanceAs (Decidable (_ ∧ _))
  | .deleteForTenant _, _ => inferInstanceAs (Decidable (_ = _))
  | .write .., _ => isFalse not_false
  | .proposeCandidate .., _ => isFalse not_false
  | .approve .., _ => isFalse not_false
  | .reject .., _ => isFalse not_false

/-- The service in memory, and the identifiers of what was forgotten or deleted so far. -/
structure History where
  service : LongTermMemory := {}
  gone : List String := []

def History.next (history : History) (operation : Operation) : History where
  service := history.service.perform operation
  gone := history.gone ++ (history.service.records.entries.filter fun record =>
    operation.Removes record).map MemoryRecord.id

def History.of (operations : List Operation) : History := operations.foldl History.next {}

def History.Spares (history : History) : Operation → Prop
  | .approve _ memoryId _ => memoryId ∉ history.gone
  | _ => True

instance (history : History) : DecidablePred history.Spares
  | .approve _ memoryId _ => inferInstanceAs (Decidable (memoryId ∉ history.gone))
  | .write .. => isTrue trivial
  | .proposeCandidate .. => isTrue trivial
  | .reject .. => isTrue trivial
  | .forget .. => isTrue trivial
  | .deleteForTenant _ => isTrue trivial

/-- `expires_at` has passed. A datetime without an offset is no instant. -/
def expired (now : Time) (record : MemoryRecord) : Bool :=
  record.expiresAt.any fun expiresAt => expiresAt.toUtc?.any fun instant => instant ≤ now

section Twins

theorem rewrite_agrees {service : LongTermMemory} {table : MemoryTable}
    (same : service.records = table.rows) (tenantId memoryId : String)
    (change : MemoryRecord → MemoryRecord) (keeps : ∀ row, (change row).id = row.id) :
    ((service.rewrite tenantId memoryId change).toOption.getD service).records =
      ((table.rewrite tenantId memoryId change keeps).toOption.getD table).rows := by
  unfold LongTermMemory.rewrite MemoryTable.rewrite LongTermMemory.get MemoryTable.get
  rw [same]
  cases found : table.rows.get? memoryId with
  | none => exact same
  | some row =>
    by_cases own : row.tenantId = tenantId
    · have key : row.id = memoryId := Table.key_of_get? found
      have present : table.rows.get? (change row).id = some row := by rw [keeps, key, found]
      simp only [own, ne_eq, not_true_eq_false, if_false, if_true]
      ext1
      change (table.rows.put (change row)).entries = table.rows.entries.map _
      rw [Table.entries_put present]
      refine List.map_congr_left fun other member => ?_
      rw [keeps, key]
      by_cases same_id : other.id = memoryId
      · have : other = row := by
          have there := Table.get?_of_mem member
          rw [same_id, found] at there
          exact (Option.some.inj there).symm
        rw [if_pos same_id, if_pos ⟨this ▸ own, same_id⟩, this]
      · rw [if_neg same_id, if_neg fun both => same_id both.2]
    · simp only [own, ne_eq, not_false_eq_true, if_true, if_false]
      exact same

theorem perform_agrees {service : LongTermMemory} {table : MemoryTable}
    (same : service.records = table.rows) {operation : Operation}
    (fresh : ∀ id, operation.newId = some id → table.rows.get? id = none) :
    (service.perform operation).records = (table.perform operation).rows := by
  cases operation with
  | write request id createdAt =>
    have absent := fresh id rfl
    simp only [LongTermMemory.perform, MemoryTable.perform, LongTermMemory.write, MemoryTable.write,
      absent, same, Option.getD_some]
  | proposeCandidate request id createdAt =>
    have absent := fresh id rfl
    simp only [LongTermMemory.perform, MemoryTable.perform, LongTermMemory.proposeCandidate,
      MemoryTable.proposeCandidate, LongTermMemory.write, MemoryTable.write, absent, same,
      Option.getD_some]
  | approve tenantId memoryId user => exact rewrite_agrees same tenantId memoryId _ _
  | reject tenantId memoryId user => exact rewrite_agrees same tenantId memoryId _ _
  | forget tenantId memoryId now => exact rewrite_agrees same tenantId memoryId _ _
  | deleteForTenant tenantId =>
    simp only [LongTermMemory.perform, MemoryTable.perform, LongTermMemory.deleteForTenant,
      MemoryTable.deleteForTenant, same]

theorem known_rewrite {table : MemoryTable} {tenantId memoryId : String}
    {change : MemoryRecord → MemoryRecord} {keeps : ∀ row, (change row).id = row.id}
    {row : MemoryRecord} (member : row ∈
      ((table.rewrite tenantId memoryId change keeps).toOption.getD table).rows.entries) :
    ∃ old ∈ table.rows.entries, old.id = row.id := by
  unfold MemoryTable.rewrite at member
  split at member
  · exact ⟨row, member, rfl⟩
  · obtain ⟨old, there, rfl⟩ := List.mem_map.mp member
    refine ⟨old, there, ?_⟩
    split
    · exact (keeps old).symm
    · rfl

theorem known_write {table : MemoryTable} {request : MemoryWriteRequest} {id : String}
    {createdAt : Time} {row : MemoryRecord}
    (member : row ∈ ((table.write request id createdAt).getD table).rows.entries) :
    (∃ old ∈ table.rows.entries, old.id = row.id) ∨ id = row.id := by
  unfold MemoryTable.write at member
  split at member
  · exact .inl ⟨row, member, rfl⟩
  · obtain rfl | ⟨old, -⟩ := Table.mem_put.mp member
    · exact .inr rfl
    · exact .inl ⟨row, old, rfl⟩

theorem known_perform {table : MemoryTable} {operation : Operation} {row : MemoryRecord}
    (member : row ∈ (table.perform operation).rows.entries) :
    (∃ old ∈ table.rows.entries, old.id = row.id) ∨ operation.newId = some row.id := by
  cases operation with
  | write request id createdAt => exact (known_write member).imp_right (congrArg some)
  | proposeCandidate request id createdAt => exact (known_write member).imp_right (congrArg some)
  | approve tenantId memoryId user => exact .inl (known_rewrite member)
  | reject tenantId memoryId user => exact .inl (known_rewrite member)
  | forget tenantId memoryId now => exact .inl (known_rewrite member)
  | deleteForTenant tenantId =>
    obtain ⟨old, there, rfl⟩ := List.mem_map.mp member
    refine .inl ⟨old, there, ?_⟩
    split <;> rfl

theorem unused_perform {table : MemoryTable} {operation : Operation} {rest : List Operation}
    (unused : ∀ id ∈ (operation :: rest).filterMap Operation.newId, table.rows.get? id = none)
    (nodup : FreshIds (operation :: rest)) :
    (∀ id ∈ rest.filterMap Operation.newId, (table.perform operation).rows.get? id = none) ∧
      FreshIds rest := by
  unfold FreshIds at nodup ⊢
  rw [List.filterMap_cons] at unused nodup
  cases drawn : operation.newId with
  | none =>
    rw [drawn] at unused nodup
    refine ⟨fun id later => Table.get?_eq_none.mpr fun row member same => ?_, nodup⟩
    obtain ⟨old, there, key⟩ | new := known_perform member
    · exact Table.get?_eq_none.mp (unused id later) old there (key.trans same)
    · cases drawn.symm.trans new
  | some first =>
    rw [drawn] at unused nodup
    obtain ⟨apart, nodup⟩ := List.nodup_cons.mp nodup
    refine ⟨fun id later => Table.get?_eq_none.mpr fun row member same => ?_, nodup⟩
    obtain ⟨old, there, key⟩ | new := known_perform member
    · exact Table.get?_eq_none.mp (unused id (List.mem_cons_of_mem _ later)) old there
        (key.trans same)
    · obtain rfl := Option.some.inj (drawn.symm.trans new)
      exact apart (same ▸ later)

theorem agrees_from {service : LongTermMemory} {table : MemoryTable} {operations : List Operation}
    (same : service.records = table.rows)
    (unused : ∀ id ∈ operations.filterMap Operation.newId, table.rows.get? id = none)
    (nodup : FreshIds operations) :
    (operations.foldl LongTermMemory.perform service).records =
      (operations.foldl MemoryTable.perform table).rows := by
  induction operations generalizing service table with
  | nil => exact same
  | cons operation rest ih =>
    have fresh : ∀ id, operation.newId = some id → table.rows.get? id = none := fun id drawn =>
      unused id (List.mem_filterMap.mpr ⟨operation, List.mem_cons_self, drawn⟩)
    obtain ⟨later, nodup⟩ := unused_perform unused nodup
    exact ih (perform_agrees same fresh) later nodup

theorem after_agrees {operations : List Operation} (fresh : FreshIds operations) :
    (LongTermMemory.after operations).records = (MemoryTable.after operations).rows :=
  agrees_from rfl (fun _ _ => rfl) fresh

end Twins

section Removed

open Machine (Conforms)

structure History.Kept (history : History) : Prop where
  inactive : ∀ record ∈ history.service.records.entries,
    record.id ∈ history.gone → record.status ≠ .active
  known : ∀ id ∈ history.gone, ∃ record ∈ history.service.records.entries, record.id = id

theorem mem_rewrite {service : LongTermMemory} {tenantId memoryId : String}
    {change : MemoryRecord → MemoryRecord} (keeps : ∀ record, (change record).id = record.id)
    {record : MemoryRecord} (member : record ∈
      ((service.rewrite tenantId memoryId change).toOption.getD service).records.entries) :
    record ∈ service.records.entries ∧ ¬(record.tenantId = tenantId ∧ record.id = memoryId) ∨
      ∃ old ∈ service.records.entries, old.id = memoryId ∧ record = change old := by
  unfold LongTermMemory.rewrite LongTermMemory.get at member
  cases found : service.records.get? memoryId with
  | none =>
    rw [found] at member
    exact .inl ⟨member, fun own => Table.get?_eq_none.mp found record member own.2⟩
  | some old =>
    obtain ⟨there, key⟩ := Table.get?_eq_some.mp found
    rw [found] at member
    by_cases own : old.tenantId = tenantId
    · simp only [own, ne_eq, not_true_eq_false, if_false] at member
      obtain rfl | ⟨other, apart⟩ := Table.mem_put.mp member
      · exact .inr ⟨old, there, key, rfl⟩
      · exact .inl ⟨other, fun both => apart (by rw [keeps, key, both.2])⟩
    · simp only [own, ne_eq, not_false_eq_true, if_true] at member
      refine .inl ⟨member, fun both => own ?_⟩
      have same := Table.get?_of_mem (t := service.records) member
      rw [both.2, found] at same
      rw [Option.some.inj same, both.1]

theorem put_keeps {records : Table MemoryRecord.id} {new old : MemoryRecord}
    (there : old ∈ records.entries) : ∃ record ∈ (records.put new).entries, record.id = old.id := by
  by_cases same : old.id = new.id
  · exact ⟨new, Table.mem_put.mpr (.inl rfl), same.symm⟩
  · exact ⟨old, Table.mem_put.mpr (.inr ⟨there, same⟩), rfl⟩

theorem rewrite_keeps {service : LongTermMemory} {tenantId memoryId : String}
    {change : MemoryRecord → MemoryRecord} {old : MemoryRecord}
    (there : old ∈ service.records.entries) : ∃ record ∈
      ((service.rewrite tenantId memoryId change).toOption.getD service).records.entries,
      record.id = old.id := by
  unfold LongTermMemory.rewrite
  split
  · exact ⟨old, there, rfl⟩
  · exact put_keeps there

theorem perform_keeps {service : LongTermMemory} (operation : Operation) {old : MemoryRecord}
    (there : old ∈ service.records.entries) :
    ∃ record ∈ (service.perform operation).records.entries, record.id = old.id := by
  cases operation with
  | write => exact put_keeps there
  | proposeCandidate => exact put_keeps there
  | approve => exact rewrite_keeps there
  | reject => exact rewrite_keeps there
  | forget => exact rewrite_keeps there
  | deleteForTenant tenantId =>
    refine ⟨_, List.mem_map_of_mem there, ?_⟩
    split <;> rfl

theorem History.Kept.known_next {history : History} (kept : history.Kept) (operation : Operation) :
    ∀ id ∈ (history.next operation).gone,
      ∃ record ∈ (history.next operation).service.records.entries, record.id = id := by
  intro id gone
  obtain before | now := List.mem_append.mp gone
  · obtain ⟨old, there, rfl⟩ := kept.known id before
    exact perform_keeps operation there
  · obtain ⟨old, taken, rfl⟩ := List.mem_map.mp now
    exact perform_keeps operation (List.mem_of_mem_filter taken)

variable {history : History}

theorem removes_nothing (operation : Operation) (nothing : ∀ record, ¬operation.Removes record) :
    (history.next operation).gone = history.gone := by
  unfold History.next
  dsimp only
  rw [List.filter_eq_nil_iff.mpr fun record _ removes => nothing record (of_decide_eq_true removes)]
  exact List.append_nil _

theorem gone_now {operation : Operation} {record : MemoryRecord}
    (there : record ∈ history.service.records.entries)
    (gone : record.id ∈ (history.next operation).gone) :
    record.id ∈ history.gone ∨ operation.Removes record := by
  refine (List.mem_append.mp gone).imp_right fun now => ?_
  obtain ⟨other, taken, same⟩ := List.mem_map.mp now
  obtain ⟨member, removes⟩ := List.mem_filter.mp taken
  have : other = record :=
    List.inj_on_of_nodup_map history.service.records.nodup member there same
  exact this ▸ of_decide_eq_true removes

theorem inactive_put (kept : history.Kept) {new : MemoryRecord}
    (fresh : history.service.records.get? new.id = none) :
    ∀ record ∈ (history.service.records.put new).entries,
      record.id ∈ history.gone → record.status ≠ .active := by
  intro record member gone
  obtain rfl | ⟨old, -⟩ := Table.mem_put.mp member
  · obtain ⟨stored, there, same⟩ := kept.known _ gone
    exact absurd same (Table.get?_eq_none.mp fresh stored there)
  · exact kept.inactive record old gone

theorem History.Kept.next (kept : history.Kept) {operation : Operation}
    (fresh : ∀ id, operation.newId = some id → history.service.records.get? id = none)
    (spares : history.Spares operation) : (history.next operation).Kept := by
  refine ⟨?_, kept.known_next operation⟩
  cases operation with
  | write request id createdAt =>
    rw [removes_nothing (.write request id createdAt) fun _ => not_false]
    exact inactive_put kept (fresh id rfl)
  | proposeCandidate request id createdAt =>
    rw [removes_nothing (.proposeCandidate request id createdAt) fun _ => not_false]
    exact inactive_put kept (fresh id rfl)
  | approve tenantId memoryId user =>
    rw [removes_nothing (.approve tenantId memoryId user) fun _ => not_false]
    intro record member gone
    obtain ⟨old, -⟩ | ⟨old, there, key, rfl⟩ := mem_rewrite (MemoryRecord.withStatus_id .active) member
    · exact kept.inactive record old gone
    · exact absurd (show old.id ∈ history.gone from gone) (key ▸ spares)
  | reject tenantId memoryId user =>
    rw [removes_nothing (.reject tenantId memoryId user) fun _ => not_false]
    intro record member gone
    obtain ⟨old, -⟩ | ⟨old, there, key, rfl⟩ := mem_rewrite (MemoryRecord.withStatus_id .rejected) member
    · exact kept.inactive record old gone
    · exact nofun
  | forget tenantId memoryId now =>
    intro record member gone
    obtain ⟨old, apart⟩ | ⟨old, there, key, rfl⟩ :=
      mem_rewrite (MemoryRecord.forgotten_id now) member
    · obtain before | removes := gone_now old gone
      · exact kept.inactive record old before
      · exact absurd removes apart
    · exact nofun
  | deleteForTenant tenantId =>
    intro record member gone
    obtain ⟨old, there, rfl⟩ := List.mem_map.mp member
    by_cases deletes : old.Deletes tenantId
    · rw [if_pos deletes]
      exact nofun
    · rw [if_neg deletes] at gone ⊢
      obtain before | removes := gone_now there gone
      · exact kept.inactive old there before
      · intro active
        exact deletes ⟨removes, by rw [active]; decide⟩

theorem kept_from {table : MemoryTable} {operations : List Operation}
    (same : history.service.records = table.rows)
    (unused : ∀ id ∈ operations.filterMap Operation.newId, table.rows.get? id = none)
    (nodup : FreshIds operations) (kept : history.Kept)
    (spares : Conforms (fun h o => some (History.next h o)) History.Spares history operations) :
    (operations.foldl History.next history).Kept := by
  induction operations generalizing history table with
  | nil => exact kept
  | cons operation rest ih =>
    have fresh : ∀ id, operation.newId = some id → table.rows.get? id = none := fun id drawn =>
      unused id (List.mem_filterMap.mpr ⟨operation, List.mem_cons_self, drawn⟩)
    obtain ⟨later, nodup⟩ := unused_perform unused nodup
    obtain ⟨spared, rest_spares⟩ := spares _ rfl
    exact ih (perform_agrees same fresh) later nodup (kept.next (same ▸ fresh) spared) rest_spares

end Removed

/-- What the claim asks of a listing of active records: the services list the same ones, and none
of them has expired or was forgotten or deleted. -/
structure Listed (operations : List Operation) (tenantId : String) (scopeType : MemoryScopeType)
    (scopeId : String) (now : Time) : Prop where
  same : ((LongTermMemory.after operations).listByScope tenantId scopeType scopeId .active).Perm
    ((MemoryTable.after operations).listByScope tenantId scopeType scopeId .active now)
  current : ∀ record,
    record ∈ (LongTermMemory.after operations).listByScope tenantId scopeType scopeId .active ∨
      record ∈ (MemoryTable.after operations).listByScope tenantId scopeType scopeId .active now →
    expired now record = false ∧ record.id ∉ (History.of operations).gone

theorem service_from (operations : List Operation) (history : History) :
    (operations.foldl History.next history).service =
      operations.foldl LongTermMemory.perform history.service := by
  induction operations generalizing history with
  | nil => rfl
  | cons operation rest ih => exact ih (history.next operation)

theorem service_of (operations : List Operation) :
    (History.of operations).service = LongTermMemory.after operations :=
  service_from operations {}

section Runs

open Triggers (day)

def midnight : Time := 20636 * day

def preference (expiresAt : Option DateTime) : MemoryWriteRequest where
  tenantId := "acme"
  workspaceId := "sales"
  scopeType := .user
  scopeId := "alex"
  sourceRunId := "run"
  content := "Prefers short answers."
  createdBy := "alex"
  expiresAt := expiresAt

/-- A memory until tomorrow, another one that is forgotten and then rejected. -/
def careful : List Operation :=
  [.write (preference (some (DateTime.utc (midnight + day)))) "kept" midnight,
    .proposeCandidate (preference none) "dropped" midnight, .approve "acme" "dropped" "admin",
    .forget "acme" "dropped" (midnight + 1), .reject "acme" "dropped" "admin"]

/-- A memory is written, its tenant is deleted, and the memory is approved. -/
def approvedAgain : List Operation :=
  [.write (preference none) "memory" midnight, .deleteForTenant "acme", .approve "acme" "memory" "admin"]

example : ((LongTermMemory.after [.write (preference (some (DateTime.utc midnight))) "old" 0]).listByScope
    "acme" .user "alex" .active).map MemoryRecord.id = ["old"] ∧
  ((MemoryTable.after [.write (preference (some (DateTime.utc midnight))) "old" 0]).listByScope
    "acme" .user "alex" .active (midnight + day)).map MemoryRecord.id = [] := by
  decide +kernel

end Runs

end Taroai.Memory
