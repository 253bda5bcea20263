import Taroai.Clock
import Taroai.Lib.Machine
import Taroai.Lib.Ranked
import Taroai.Lib.Table
import Mathlib.Data.Char
import Mathlib.Data.List.Lex

/-! The short-term memory services, in memory and on Redis. A call is made at one instant, which
its `now` and the clock of the Redis server read, and comes with the keys that `SCAN` reports for
it. What becomes of a value that is written as JSON and read again is a parameter, and so is the
matching of glob patterns but for patterns that are literal up to a final `*`. -/

namespace Taroai.Memory.ShortTerm

abbrev Text := List Char

structure ShortTermMemoryWrite (V : Type) where
  tenantId : Text
  workspaceId : Text
  runId : Text
  key : Text
  value : V
  ttlSeconds : Nat := 3600
  ttl_pos : 1 ≤ ttlSeconds := by decide

structure ShortTermMemoryEntry (V : Type) where
  tenantId : Text
  workspaceId : Text
  runId : Text
  key : Text
  value : V
  createdAt : Time
  expiresAt : Time
deriving DecidableEq

variable {V : Type}

namespace ShortTermMemoryEntry

def fromWrite (request : ShortTermMemoryWrite V) (now : Time) : ShortTermMemoryEntry V where
  tenantId := request.tenantId
  workspaceId := request.workspaceId
  runId := request.runId
  key := request.key
  value := request.value
  createdAt := now
  expiresAt := now + seconds request.ttlSeconds

def isExpired (entry : ShortTermMemoryEntry V) (now : Time) : Bool := entry.expiresAt ≤ now

end ShortTermMemoryEntry

open ShortTermMemoryEntry

/-! `InMemoryShortTermMemoryService` -/

namespace InMemory

abbrev Entries (V : Type) := Table (Prod.fst : Text × ShortTermMemoryEntry V → Text)

def keyPrefix (tenantId runId : Text) : Text := tenantId ++ ':' :: (runId ++ [':'])

def storedKey (tenantId runId key : Text) : Text := keyPrefix tenantId runId ++ key

variable (entries : Entries V) (now : Time)

def put (request : ShortTermMemoryWrite V) : ShortTermMemoryEntry V × Entries V :=
  let entry := fromWrite request now
  (entry, Table.put entries (storedKey request.tenantId request.runId request.key, entry))

def get (tenantId runId key : Text) : Option (ShortTermMemoryEntry V) × Entries V :=
  match Table.get? entries (storedKey tenantId runId key) with
  | none => (none, entries)
  | some (_, entry) =>
    if entry.isExpired now then (none, Table.erase entries (storedKey tenantId runId key))
    else (some entry, entries)

def listForRun (tenantId runId : Text) : List (ShortTermMemoryEntry V) × Entries V :=
  let ofRun := fun p : Text × ShortTermMemoryEntry V => (keyPrefix tenantId runId).isPrefixOf p.1
  (Ranked.orderBy ShortTermMemoryEntry.key
      ((entries.entries.filter fun p => ofRun p && !p.2.isExpired now).map Prod.snd),
    Table.filter entries fun p => !(ofRun p && p.2.isExpired now))

def delete (tenantId runId key : Text) : Bool × Entries V :=
  match Table.get? entries (storedKey tenantId runId key) with
  | none => (false, entries)
  | some _ => (true, Table.erase entries (storedKey tenantId runId key))

def deleteForTenant (tenantId : Text) : Nat × Entries V :=
  let ofTenant := fun p : Text × ShortTermMemoryEntry V => (tenantId ++ [':']).isPrefixOf p.1
  ((entries.entries.filter ofTenant).length, Table.filter entries fun p => !ofTenant p)

end InMemory

/-! `RedisShortTermMemoryService` -/

def globSpecial : List Char := ['*', '?', '[', '\\']

/-- `SCAN MATCH`: a pattern that is literal up to a final `*` matches the keys that begin so. -/
structure Glob where
  covers : (pattern key : Text) → Bool
  literal : ∀ text key, (∀ c ∈ text, c ∉ globSpecial) →
    covers (text ++ ['*']) key = text.isPrefixOf key

namespace Redis

/-- A key with what is read back from it and the millisecond after which it is gone. -/
structure Record (V : Type) where
  key : Text
  entry : ShortTermMemoryEntry V
  expiresMs : Int

abbrev Db (V : Type) := Table (Record.key : Record V → Text)

def Record.visible (now : Time) (record : Record V) : Bool := !(record.expiresMs < now / 1000)

structure Service (V : Type) where
  keyPrefix : Text
  glob : Glob
  reread : V → V

variable (service : Service V) (db : Db V) (now : Time)

/-- `client.get` -/
def clientGet (key : Text) : Option (ShortTermMemoryEntry V) :=
  ((Table.get? db key).filter (·.visible now)).map Record.entry

/-- The keys that a `SCAN` with the pattern goes through. -/
def matching (pattern : Text) : List Text :=
  (db.entries.filter fun record => record.visible now && service.glob.covers pattern record.key).map
    Record.key

def tenantPrefix (tenantId : Text) : Text :=
  service.keyPrefix ++ ":tenant:".toList ++ tenantId ++ [':']

def runPrefix (tenantId runId : Text) : Text :=
  service.keyPrefix ++ ":tenant:".toList ++ tenantId ++ ":run:".toList ++ runId ++ ":key:".toList

def storedKey (tenantId runId key : Text) : Text := runPrefix service tenantId runId ++ key

def put (request : ShortTermMemoryWrite V) : ShortTermMemoryEntry V × Db V :=
  let entry := fromWrite request now
  (entry, Table.put db {
    key := storedKey service request.tenantId request.runId request.key
    entry := { entry with value := service.reread entry.value }
    expiresMs := now / 1000 + 1000 * request.ttlSeconds })

def get (tenantId runId key : Text) : Option (ShortTermMemoryEntry V) × Db V :=
  match clientGet db now (storedKey service tenantId runId key) with
  | none => (none, db)
  | some entry =>
    if entry.isExpired now then (none, Table.erase db (storedKey service tenantId runId key))
    else (some entry, db)

/-- The loop of `list_for_run` over the keys that were reported. -/
def readScanned : Db V → List Text → List (ShortTermMemoryEntry V) × Db V
  | db, [] => ([], db)
  | db, key :: keys =>
    match clientGet db now key with
    | none => readScanned db keys
    | some entry =>
      if entry.isExpired now then readScanned (Table.erase db key) keys
      else
        let (entries, db') := readScanned db keys
        (entry :: entries, db')

def listForRun (scanned : List Text) : List (ShortTermMemoryEntry V) × Db V :=
  let (entries, db') := readScanned now db scanned
  (Ranked.orderBy ShortTermMemoryEntry.key entries, db')

def delete (tenantId runId key : Text) : Bool × Db V :=
  match clientGet db now (storedKey service tenantId runId key) with
  | none => (false, db)
  | some _ => (true, Table.erase db (storedKey service tenantId runId key))

def deleteForTenant (scanned : List Text) : Nat × Db V :=
  (scanned.length, scanned.foldl Table.erase db)

end Redis

inductive Op (V : Type) where
  | put (request : ShortTermMemoryWrite V)
  | get (tenantId runId key : Text)
  | listForRun (tenantId runId : Text)
  | delete (tenantId runId key : Text)
  | deleteForTenant (tenantId : Text)

inductive Result (V : Type) where
  | stored (entry : ShortTermMemoryEntry V)
  | found (entry : Option (ShortTermMemoryEntry V))
  | entries (entries : List (ShortTermMemoryEntry V))
  | deleted (present : Bool)
  | count (n : Nat)
deriving DecidableEq

structure Call (V : Type) where
  op : Op V
  now : Time
  scanned : List Text := []

def InMemory.perform (entries : InMemory.Entries V) (call : Call V) :
    Result V × InMemory.Entries V :=
  match call.op with
  | .put request => (InMemory.put entries call.now request).map .stored id
  | .get tenantId runId key => (InMemory.get entries call.now tenantId runId key).map .found id
  | .listForRun tenantId runId =>
    (InMemory.listForRun entries call.now tenantId runId).map .entries id
  | .delete tenantId runId key => (InMemory.delete entries tenantId runId key).map .deleted id
  | .deleteForTenant tenantId => (InMemory.deleteForTenant entries tenantId).map .count id

def Redis.perform (service : Redis.Service V) (db : Redis.Db V) (call : Call V) :
    Result V × Redis.Db V :=
  match call.op with
  | .put request => (Redis.put service db call.now request).map .stored id
  | .get tenantId runId key => (Redis.get service db call.now tenantId runId key).map .found id
  | .listForRun _ _ => (Redis.listForRun db call.now call.scanned).map .entries id
  | .delete tenantId runId key =>
    (Redis.delete service db call.now tenantId runId key).map .deleted id
  | .deleteForTenant _ => (Redis.deleteForTenant db call.scanned).map .count id

def Redis.pattern (service : Redis.Service V) : Op V → Option Text
  | .listForRun tenantId runId => some (Redis.runPrefix service tenantId runId ++ ['*'])
  | .deleteForTenant tenantId => some (Redis.tenantPrefix service tenantId ++ ['*'])
  | _ => none

/-! What the services are for: entries kept apart by tenant, run and key. -/

abbrev Contents (V : Type) := (tenantId runId key : Text) → Option (ShortTermMemoryEntry V)

def Contents.after (contents : Contents V) (now : Time) : Op V → Contents V
  | .put request => fun tenantId runId key =>
    if tenantId = request.tenantId ∧ runId = request.runId ∧ key = request.key then
      some (fromWrite request now)
    else contents tenantId runId key
  | .delete tenantId' runId' key' => fun tenantId runId key =>
    if tenantId = tenantId' ∧ runId = runId' ∧ key = key' then none
    else contents tenantId runId key
  | .deleteForTenant tenantId' => fun tenantId runId key =>
    if tenantId = tenantId' then none else contents tenantId runId key
  | _ => contents

def live (now : Time) (entry : Option (ShortTermMemoryEntry V)) : Option (ShortTermMemoryEntry V) :=
  entry.filter fun entry => !entry.isExpired now

/-- The result that an operation should have: a listing has the unexpired entries of the tenant
and run and no others, in the order of their keys, and a deletion tells what it removed. -/
def Answers (contents : Contents V) (now : Time) : Op V → Result V → Prop
  | .put request, .stored entry => entry = fromWrite request now
  | .get tenantId runId key, .found entry => entry = live now (contents tenantId runId key)
  | .listForRun tenantId runId, .entries entries =>
    (entries.Pairwise fun a b => a.key < b.key) ∧
      ∀ entry, entry ∈ entries ↔ ∃ key, live now (contents tenantId runId key) = some entry
  | .delete tenantId runId key, .deleted present =>
    present = (live now (contents tenantId runId key)).isSome
  | .deleteForTenant tenantId, .count n =>
    ∃ removed : List (Text × Text), removed.Nodup ∧ n = removed.length ∧
      ∀ p, p ∈ removed ↔ (live now (contents tenantId p.1 p.2)).isSome = true
  | _, _ => False

end Taroai.Memory.ShortTerm
