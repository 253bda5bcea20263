import Mathlib.Data.List.Sort
import Taroai.Lib.Raising
import Taroai.Store.AgentRecords

/-! The agent-action operations of the in-memory store of `store.py`. Each one runs under
the repository lock, hence as one step; it may raise, and keeps what it wrote before the
raise. `utc_now()` and `new_id` are arguments. Which values `json.dumps` accepts is the
parameter `jsonable`. Deep copies are the values themselves. -/

namespace Taroai.Store

open Raising

structure AgentStore (J : Type) where
  runs : Table Run.id
  cycles : Table AgentCycle.id
  actions : Table (AgentAction.id (J := J))
  checkpoints : List (AgentCheckpoint J)
  runEvents : List (RunEvent J)

namespace AgentStore

variable {J : Type}

abbrev Op (J α : Type) := Raising StoreError (AgentStore J) α

def getRun (tenantId runId : String) : Op J Run := do
  match (← read fun s => s.runs.get? runId) with
  | none => raise (.notFound s!"Run not found: {runId}")
  | some run => do
    ensure (run.tenantId = tenantId) (.tenantAccess s!"Run {runId} is not in tenant {tenantId}")
    return run

def getAgentCycle (tenantId cycleId : String) : Op J AgentCycle := do
  match (← read fun s => s.cycles.get? cycleId) with
  | none => raise (.notFound s!"Agent cycle not found: {cycleId}")
  | some cycle => do
    ensure (cycle.tenantId = tenantId)
      (.tenantAccess s!"Agent cycle {cycleId} is not in tenant {tenantId}")
    return cycle

def getAgentAction (tenantId actionId : String) : Op J (AgentAction J) := do
  match (← read fun s => s.actions.get? actionId) with
  | none => raise (.notFound s!"Agent action not found: {actionId}")
  | some action => do
    ensure (action.tenantId = tenantId)
      (.tenantAccess s!"Agent action {actionId} is not in tenant {tenantId}")
    return action

def putAction (action : AgentAction J) : Op J Unit :=
  update fun s => { s with actions := s.actions.put action }

def appendRunEvent (run : Run) (eventId eventType : String) (payload : Dict J) : Op J Unit :=
  update fun s =>
    let ofRun := s.runEvents.filter fun event => event.runId = run.id
    let ofThread := s.runEvents.filter fun event =>
      event.tenantId = run.tenantId ∧ event.threadId = run.threadId
    let event : RunEvent J :=
      { id := eventId
        sequence := ofRun.length + 1
        tenantId := run.tenantId
        workspaceId := run.workspaceId
        runId := run.id
        type := eventType
        payload := payload
        threadId := run.threadId
        threadSequence := run.threadId.map fun _ =>
          (ofThread.map fun event => event.threadSequence.getD 0).foldr max 0 + 1 }
    { s with runEvents := s.runEvents ++ [event] }

/-- `_lease_time`: a naive reading is refused, an aware one is moved to UTC. -/
def leaseTime (value : DateTime) : Op J Time :=
  match value.toUtc? with
  | none => raise (.value "Agent action lease times must be timezone-aware")
  | some time => pure time

def leaseExpiration (now : Time) (leaseSeconds : Int) : Op J Time := do
  ensure (1 ≤ leaseSeconds) (.value "lease_seconds must be at least 1")
  return now + seconds leaseSeconds

def nextCheckpointSequence (s : AgentStore J) (runId : String) : Nat :=
  ((s.checkpoints.filter fun c => c.runId = runId).map AgentCheckpoint.sequence).foldr max 0 + 1

def createAgentAction (action : AgentAction J) : Op J (AgentAction J) := do
  let actionId := action.id
  ensure (action.status = .pending)
    (.value s!"Agent action {actionId} must be pending until it is claimed")
  let cycle ← getAgentCycle action.tenantId action.cycleId
  let cycleId := cycle.id
  ensure (cycle.runId = action.runId ∧ cycle.workspaceId = action.workspaceId)
    (.tenantAccess s!"Agent action {actionId} does not match its cycle")
  ensure (cycle.threadId = action.threadId)
    (.value s!"Agent action {actionId} thread does not match cycle {cycleId}")
  let stored ← read fun s => s.actions.get? action.id
  ensure (stored = none) (.value s!"Agent action already exists: {actionId}")
  let runId := action.runId
  let key := action.actionKey
  let same ← read fun s => s.actions.entries.any fun existing =>
    existing.runId = action.runId ∧ existing.actionKey = action.actionKey
  ensure (same = false) (.value s!"Duplicate action_key for run {runId}: {key}")
  putAction action
  return action

def claimAgentAction (tenantId actionId leaseOwnerId : String) (leaseSeconds : Int)
    (now : DateTime) : Op J (Option (AgentAction J)) := do
  let claimedAt ← leaseTime now
  let expiry ← leaseExpiration claimedAt leaseSeconds
  ensure (leaseOwnerId ≠ "") (.value "lease_owner_id must not be empty")
  match (← read fun s => s.actions.get? actionId) with
  | none => return none
  | some action =>
    if action.tenantId = tenantId ∧ action.status = .pending then do
      putAction (action.claimed leaseOwnerId expiry claimedAt)
      return some (action.claimed leaseOwnerId expiry claimedAt)
    else return none

def renewAgentActionLease (tenantId actionId leaseOwnerId : String) (leaseGeneration : Nat)
    (leaseSeconds : Int) (now : DateTime) : Op J (Option (AgentAction J)) := do
  let renewedAt ← leaseTime now
  let expiry ← leaseExpiration renewedAt leaseSeconds
  match (← read fun s => s.actions.get? actionId) with
  | none => return none
  | some action =>
    if action.tenantId = tenantId ∧
        action.leasedTo leaseOwnerId leaseGeneration renewedAt = true then do
      putAction (action.renewed expiry)
      return some (action.renewed expiry)
    else return none

def cancelAgentAction (tenantId actionId : String) (now : DateTime) : Op J (AgentAction J) := do
  let action ← getAgentAction tenantId actionId
  if action.status = .pending ∨ action.status = .running ∨ action.status = .uncertain then do
    let completedAt ← leaseTime now
    putAction (action.cancelled completedAt)
    return action.cancelled completedAt
  else return action

def recoverExpiredAgentActions (tenantId : String) (now : DateTime) (limit : Int) :
    Op J (List (AgentAction J)) := do
  ensure (1 ≤ limit) (.value "limit must be at least 1")
  let recoveredAt ← leaseTime now
  let lapsed ← read fun s => s.actions.entries.filter fun action =>
    action.leaseLapsed tenantId recoveredAt
  let candidates := (lapsed.insertionSort fun a b => a.id ≤ b.id).take limit.toNat
  each candidates fun action => putAction action.uncertain
  return candidates.map AgentAction.uncertain

def resolution (action : AgentAction J) (resolution resolvedByUserId note : String)
    (now : Time) : Op J (AgentAction J) :=
  if resolution = "retry" then pure action.reopened
  else if nonempty : action.id ≠ "" then
    let reason := if resolution = "failed" ∧ note ≠ "" then some note else none
    pure (action.resolved
      { actionId := action.id
        success := resolution = "succeeded"
        output := [("human_resolution", .text resolution),
          ("resolved_by_user_id", .text resolvedByUserId)]
        error := reason
        safeError := reason
        failureClass := if resolution = "failed" then some "human_confirmed_failed" else none
        createdAt := now
        actionId_nonempty := nonempty } now)
  else raise .validation

def resolveUncertainAgentAction (tenantId actionId resolution resolvedByUserId note : String)
    (now : Time) (eventId : String) : Op J (AgentAction J) := do
  ensure (resolution ∈ ["succeeded", "failed", "retry"])
    (.value s!"Unsupported uncertain action resolution: {resolution}")
  let action ← getAgentAction tenantId actionId
  ensure (action.status = .uncertain) (.value s!"Agent action {actionId} is not uncertain")
  let updated ← AgentStore.resolution action resolution resolvedByUserId note now
  putAction updated
  let run ← getRun tenantId action.runId
  appendRunEvent run eventId "agent.action.resolved"
    [("action_id", .text action.id), ("resolution", .text resolution),
      ("resolved_by_user_id", .text resolvedByUserId), ("note", .text note)]
  return updated

def reconnectRequired : Option String := some "connector_reconnect_required"

def reconnectRetryCount (action : AgentAction J) : Op J Int :=
  match action.usage.get "connector_reconnect_retry_count" with
  | none => pure 0
  | some count =>
    match count.toInt with
    | some n => pure n
    | none => raise .notInteger

def pauseConnectorActionForReconnect (tenantId actionId connectorId eventId : String) :
    Op J (AgentAction J) := do
  let action ← getAgentAction tenantId actionId
  let retryCount ← reconnectRetryCount action
  ensure (action.status = .failed ∧ action.failureClass = reconnectRequired ∧ retryCount ≤ 0)
    (.value "connector action is not eligible for reconnect")
  let updated := { action with status := .uncertain }
  putAction updated
  let run ← getRun tenantId action.runId
  appendRunEvent run eventId "connector.reconnect_required"
    [("connector_id", .text connectorId), ("action_id", .text action.id),
      ("run_id", .text action.runId), ("thread_id", .optional action.threadId)]
  return updated

def reconnected (action : AgentAction J) : AgentAction J :=
  { action.reopened with usage := action.usage.set "connector_reconnect_retry_count" (.int 1) }

def retryConnectorActionAfterReconnect
    (tenantId actionId connectorId resolvedByUserId eventId : String) :
    Op J (AgentAction J) := do
  let action ← getAgentAction tenantId actionId
  let observedConnector := action.observation.bind fun seen => seen.output.get "connector_id"
  let retryCount ← reconnectRetryCount action
  ensure (action.status = .uncertain ∧ action.failureClass = reconnectRequired ∧
      observedConnector.bind Value.text? = some connectorId ∧ retryCount = 0)
    (.value "connector action reconnect retry is no longer available")
  putAction (reconnected action)
  let run ← getRun tenantId action.runId
  appendRunEvent run eventId "connector.reconnect_resumed"
    [("connector_id", .text connectorId), ("action_id", .text action.id),
      ("resolved_by_user_id", .text resolvedByUserId)]
  return reconnected action

structure CommitRequest (J : Type) where
  observation : AgentObservation J
  leaseOwnerId : String
  leaseGeneration : Nat
  now : DateTime
  usage : Dict J
  statePayload : J
  checksum : String
  sandboxCheckpointRef : Option String
  checkpointId : String

def commitCheckpoint (s : AgentStore J) (action : AgentAction J) (request : CommitRequest J)
    (committedAt : Time) (nonempty : request.checksum ≠ "") : AgentCheckpoint J where
  id := request.checkpointId
  tenantId := action.tenantId
  workspaceId := action.workspaceId
  threadId := action.threadId
  runId := action.runId
  cycleId := some action.cycleId
  sequence := s.nextCheckpointSequence action.runId
  lastCommittedActionId := some action.id
  statePayload := request.statePayload
  sandboxCheckpointRef := request.sandboxCheckpointRef
  checksum := request.checksum
  createdAt := committedAt
  sequence_pos := Nat.le_add_left 1 _
  checksum_nonempty := nonempty

variable (jsonable : J → Bool)

def commitAgentActionObservation (tenantId actionId : String) (request : CommitRequest J) :
    Op J (AgentAction J) := do
  ensure (request.observation.output.all (Value.jsonable jsonable) = true ∧
    request.usage.all (Value.jsonable jsonable) = true ∧ jsonable request.statePayload = true)
    .notSerialisable
  let action ← getAgentAction tenantId actionId
  ensure (request.observation.actionId = action.id)
    (.value "Observation action_id does not match the committed action")
  let committedAt ← leaseTime request.now
  ensure (action.leasedTo request.leaseOwnerId request.leaseGeneration committedAt = true)
    (.leaseConflict s!"Agent action {actionId} lease fence is no longer valid")
  if nonempty : request.checksum ≠ "" then do
    let updated := action.committed request.observation request.usage committedAt
    update fun s =>
      { s with
        actions := s.actions.put updated
        checkpoints := s.checkpoints ++ [s.commitCheckpoint action request committedAt nonempty] }
    return updated
  else raise .validation

end AgentStore

end Taroai.Store
