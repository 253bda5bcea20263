import Taroai.Agent.Calls
import Taroai.Lib.Table

/-! The stored records of one run, and how the store answers the calls of the agent. What the
model leaves out (which leases are over, in which order two unstarted actions are listed, how
often an action was retried) is
proposed by the environment; a proposal the store would never give is refused. Of the
checkpoints only the one with the largest sequence is ever read, and only the next sequence is
ever added, so the store keeps that one. -/

namespace Taroai.Agent

open Taroai.Store (ActionStatus)

namespace AgentAction

def claimed (action : AgentAction) : AgentAction :=
  { action with status := .running, leaseGeneration := action.leaseGeneration + 1 }

def cancelled (action : AgentAction) : AgentAction :=
  if action.status = .pending ∨ action.status = .running ∨ action.status = .uncertain then
    { action with status := .cancelled }
  else action

def expired (action : AgentAction) : AgentAction :=
  if action.status = .running then { action with status := .uncertain } else action

def committed (action : AgentAction) (observation : AgentObservation) : AgentAction :=
  { action with
    status := if observation.success then .succeeded else .failed
    observation := some observation }

def paused (action : AgentAction) : AgentAction := { action with status := .uncertain }

def reopened (action : AgentAction) : AgentAction :=
  { action with status := .pending, observation := none }

def resolved (action : AgentAction) (observation : AgentObservation) : AgentAction :=
  { action with
    status := if observation.success then .succeeded else .failed
    observation := some observation }

def leasedAt (action : AgentAction) (generation : Nat) : Prop :=
  action.status = .running ∧ action.leaseGeneration = generation

instance (action : AgentAction) (generation : Nat) : Decidable (action.leasedAt generation) :=
  inferInstanceAs (Decidable (_ ∧ _))

def reconnectable (action : AgentAction) : Prop :=
  action.status = .failed ∧
    (action.observation.bind AgentObservation.failureClass) = some "connector_reconnect_required"

instance (action : AgentAction) : Decidable action.reconnectable :=
  inferInstanceAs (Decidable (_ ∧ _))

section Fields

variable (action : AgentAction) (observation : AgentObservation)

@[simp] theorem claimed_id : action.claimed.id = action.id := rfl
@[simp] theorem paused_id : action.paused.id = action.id := rfl
@[simp] theorem reopened_id : action.reopened.id = action.id := rfl

@[simp] theorem cancelled_id : action.cancelled.id = action.id := by
  unfold cancelled
  split <;> rfl

@[simp] theorem expired_id : action.expired.id = action.id := by
  unfold expired
  split <;> rfl

end Fields

end AgentAction

structure RunStore where
  runStatus : RunStatus
  saved : Option AgentRuntimeState := none
  latest : Option AgentCheckpoint := none
  cycles : List Nat := []
  actions : Table AgentAction.id := .empty

namespace RunStore

def sequence (store : RunStore) : Nat := (store.latest.map AgentCheckpoint.sequence).getD 0

def expire (store : RunStore) (ids : List String) : RunStore :=
  { store with
    actions := store.actions.map
      (fun action => if action.id ∈ ids then action.expired else action)
      (fun action => by split <;> simp) }

def update (store : RunStore) (actionId : String) (f : AgentAction → AgentAction)
    (keeps : ∀ action, (f action).id = action.id) : RunStore :=
  { store with
    actions := store.actions.map (fun action => if action.id = actionId then f action else action)
      (fun action => by split <;> simp [keeps]) }

theorem get?_expire (store : RunStore) (ids : List String) (actionId : String) :
    (store.expire ids).actions.get? actionId = (store.actions.get? actionId).map fun action =>
      if action.id ∈ ids then action.expired else action := by
  rw [expire, Table.get?_map]

theorem get?_update (store : RunStore) (updated : String) (f : AgentAction → AgentAction)
    (keeps : ∀ action, (f action).id = action.id) (actionId : String) :
    (store.update updated f keeps).actions.get? actionId =
      (store.actions.get? actionId).map fun action =>
        if action.id = updated then f action else action := by
  rw [update, Table.get?_map]

def checkpoint (store : RunStore) (sequence : Nat) (statePayload : AgentRuntimeState) : RunStore :=
  { store with latest := some ⟨sequence, statePayload⟩ }

/-- The answer to a call and the store after it, given what the environment proposes. -/
def respond (store : RunStore) : (call : Call) → call.Answer → Option (call.Answer × RunStore)
  | .getRun, _ => some (store.runStatus, store)
  | .isCancelled, _ => some (decide (store.runStatus = .cancelled), store)
  | .updateRunStatus status, _ => some ((), { store with runStatus := status })
  | .loadState, _ => some (store.saved, store)
  | .saveState state, _ => some ((), { store with saved := some state })
  | .latestCheckpoint, _ => some (store.latest, store)
  | .createCheckpoint sequence statePayload, _ =>
    if sequence = store.sequence + 1 then some (true, store.checkpoint sequence statePayload)
    else some (false, store)
  | .createCycle _ iteration, _ =>
    if iteration ∈ store.cycles then some (false, store)
    else some (true, { store with cycles := iteration :: store.cycles })
  | .recoverExpiredActions, ids => some (ids, store.expire ids)
  | .listActions, order =>
    if order.Perm store.actions.entries then some (order, store) else none
  | .createAction action, _ =>
    if (store.actions.get? action.id).isSome ∨
        store.actions.entries.any (fun stored => stored.actionKey = action.actionKey) then
      some (false, store)
    else some (true, { store with actions := store.actions.put action })
  | .getAction actionId, _ => some (store.actions.get? actionId, store)
  | .claimAction actionId, _ =>
    match store.actions.get? actionId with
    | some action =>
      if action.status = .pending then
        some (some action.claimed, store.update actionId .claimed AgentAction.claimed_id)
      else some (none, store)
    | none => some (none, store)
  | .renewLease actionId generation, unexpired =>
    some (unexpired && (store.actions.get? actionId).any fun action =>
      decide (action.leasedAt generation), store)
  | .commitObservation actionId generation observation statePayload, proposed =>
    match proposed, store.actions.get? actionId with
    | some _, some action =>
      if action.leasedAt generation then
        let sequence := store.sequence + 1
        some (some sequence,
          (store.update actionId (fun action => action.committed observation)
            fun _ => rfl).checkpoint sequence statePayload)
      else some (none, store)
    | _, _ => some (none, store)
  | .cancelAction actionId, _ =>
    some ((), store.update actionId .cancelled AgentAction.cancelled_id)
  | .pauseForReconnect actionId _, eligible =>
    match store.actions.get? actionId with
    | some action =>
      if action.reconnectable ∧ eligible then
        some (true, store.update actionId .paused AgentAction.paused_id)
      else some (false, store)
    | none => some (false, store)
  | .updateApprovalExecution _ _, _ => some ((), store)
  | .ask _, answer => some (answer, store)

end RunStore

end Taroai.Agent
