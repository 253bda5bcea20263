import Mathlib
import Taroai.Clock
import Taroai.Lib.Table

/-! The agent records of `agent/models.py` as far as the store operations read or write
them. JSON values that no operation looks into are of the type variable `J`; a dictionary
is the list of its items. Field constraints of the source models are fields of the
structures, so a record that fails its validation cannot be built. -/

namespace Taroai.Store

/-- A JSON value; `asInt` is what `int()` makes of a value that is none of the others. -/
inductive Value (J : Type) where
  | null
  | int (n : Int)
  | text (s : String)
  | other (json : J) (asInt : Option Int)
deriving DecidableEq, Repr

abbrev Dict (J : Type) := List (String × Value J)

namespace Dict

variable {J : Type}

def get (d : Dict J) (k : String) : Option (Value J) :=
  (List.find? (fun item => item.1 = k) d).map Prod.snd

def set (d : Dict J) (k : String) (v : Value J) : Dict J :=
  if List.any d (fun item => item.1 = k) then
    List.map (fun item => if item.1 = k then (k, v) else item) d
  else List.append d [(k, v)]

theorem get_set (d : Dict J) (k : String) (v : Value J) : (d.set k v).get k = some v := by
  unfold set
  split_ifs with present
  · induction d with
    | nil => cases present
    | cons item rest ih =>
      by_cases here : item.1 = k
      · simp [get, here]
      · have later : List.any rest (fun item => item.1 = k) = true := by
          simpa [here] using present
        simpa [get, here] using ih later
  · have absent : List.find? (fun item => item.1 = k) d = none := by
      rw [List.find?_eq_none]
      exact fun item member same => present (List.any_eq_true.mpr ⟨item, member, same⟩)
    simp [get, List.append_eq, List.find?_append, absent]

end Dict

namespace Value

variable {J : Type}

def optional : Option String → Value J
  | none => .null
  | some s => .text s

def toInt : Value J → Option Int
  | .null => none
  | .int n => some n
  | .text s => s.toInt?
  | .other _ asInt => asInt

def text? : Value J → Option String
  | .text s => some s
  | .null | .int _ | .other _ _ => none

/-- What `json.dumps` accepts of a dictionary item. -/
def jsonable (accepts : J → Bool) (item : String × Value J) : Bool :=
  match item.2 with
  | .other json _ => accepts json
  | .null | .int _ | .text _ => true

end Value

structure Run where
  id : String
  tenantId : String
  workspaceId : String
  threadId : Option String
deriving DecidableEq, Repr

structure RunEvent (J : Type) where
  id : String
  sequence : Nat
  tenantId : String
  workspaceId : String
  runId : String
  type : String
  payload : Dict J
  threadId : Option String
  threadSequence : Option Nat
deriving DecidableEq

structure AgentCycle where
  id : String
  tenantId : String
  workspaceId : String
  runId : String
  threadId : Option String
  iteration : Nat
  iteration_pos : 1 ≤ iteration
deriving DecidableEq

inductive ActionStatus where
  | pending
  | running
  | succeeded
  | failed
  | cancelled
  | uncertain
deriving DecidableEq, Repr

structure AgentObservation (J : Type) where
  actionId : String
  success : Bool
  output : Dict J
  error : Option String
  safeError : Option String
  failureClass : Option String
  createdAt : Time
  actionId_nonempty : ¬actionId = ""
deriving DecidableEq

structure AgentAction (J : Type) where
  id : String
  tenantId : String
  workspaceId : String
  runId : String
  cycleId : String
  threadId : Option String
  actionKey : String
  decision : J
  status : ActionStatus := .pending
  observation : Option (AgentObservation J) := none
  failureClass : Option String := none
  leaseOwnerId : Option String := none
  leaseExpiresAt : Option Time := none
  leaseGeneration : Nat := 0
  usage : Dict J := []
  startedAt : Option Time := none
  completedAt : Option Time := none
  actionKey_nonempty : ¬actionKey = ""
deriving DecidableEq

structure AgentCheckpoint (J : Type) where
  id : String
  tenantId : String
  workspaceId : String
  threadId : Option String
  runId : String
  cycleId : Option String
  sequence : Nat
  lastCommittedActionId : Option String
  statePayload : J
  sandboxCheckpointRef : Option String
  checksum : String
  createdAt : Time
  sequence_pos : 1 ≤ sequence
  checksum_nonempty : ¬checksum = ""
deriving DecidableEq

inductive StoreError where
  | notFound (message : String)
  | tenantAccess (message : String)
  | value (message : String)
  | leaseConflict (message : String)
  | notSerialisable
  | notInteger
  | validation
deriving DecidableEq, Repr

namespace AgentAction

variable {J : Type}

/-- The lease of the action is the one the caller presents, and it runs at that time. -/
def leasedTo (action : AgentAction J) (owner : String) (generation : Nat) (now : Time) : Bool :=
  decide (action.status = .running) && decide (action.leaseOwnerId = some owner) &&
    decide (action.leaseGeneration = generation) &&
    action.leaseExpiresAt.any fun expiry => decide (now < expiry)

theorem leasedTo_iff {action : AgentAction J} {owner : String} {generation : Nat} {now : Time} :
    action.leasedTo owner generation now = true ↔
      action.status = .running ∧ action.leaseOwnerId = some owner ∧
      action.leaseGeneration = generation ∧
      ∃ expiry, action.leaseExpiresAt = some expiry ∧ now < expiry := by
  cases lease : action.leaseExpiresAt <;> simp [leasedTo, lease, and_assoc]

def claimed (action : AgentAction J) (owner : String) (expiry claimedAt : Time) : AgentAction J :=
  { action with
    status := .running
    leaseOwnerId := some owner
    leaseExpiresAt := some expiry
    leaseGeneration := action.leaseGeneration + 1
    startedAt := some claimedAt }

def renewed (action : AgentAction J) (expiry : Time) : AgentAction J :=
  { action with leaseExpiresAt := some expiry }

def cancelled (action : AgentAction J) (now : Time) : AgentAction J :=
  { action with
    status := .cancelled
    leaseOwnerId := none
    leaseExpiresAt := none
    completedAt := some now }

def uncertain (action : AgentAction J) : AgentAction J :=
  { action with
    status := .uncertain
    leaseOwnerId := none
    leaseExpiresAt := none }

/-- The filter of the recovery: running without a lease, or with one that is over. -/
def leaseLapsed (action : AgentAction J) (tenantId : String) (now : Time) : Bool :=
  decide (action.tenantId = tenantId) && decide (action.status = .running) &&
    action.leaseExpiresAt.all fun expiry => decide (expiry ≤ now)

def committed (action : AgentAction J) (observation : AgentObservation J) (usage : Dict J)
    (now : Time) : AgentAction J :=
  { action with
    status := if observation.success then .succeeded else .failed
    observation := some observation
    failureClass := observation.failureClass
    leaseOwnerId := none
    leaseExpiresAt := none
    usage := usage
    completedAt := some now }

/-- The resolution `retry` of an uncertain action. -/
def reopened (action : AgentAction J) : AgentAction J :=
  { action with
    status := .pending
    leaseOwnerId := none
    leaseExpiresAt := none
    startedAt := none
    completedAt := none
    observation := none
    failureClass := none }

def resolved (action : AgentAction J) (observation : AgentObservation J) (now : Time) :
    AgentAction J :=
  { action with
    status := if observation.success then .succeeded else .failed
    observation := some observation
    failureClass := observation.failureClass
    leaseOwnerId := none
    leaseExpiresAt := none
    completedAt := some now }

end AgentAction

end Taroai.Store
