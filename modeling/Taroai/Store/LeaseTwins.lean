import Taroai.Store.AgentStore
import Taroai.Store.TextTimes

/-! The lease operations of the SQL repository on `agent_actions`, whose instants are texts,
beside those of the in-memory store. Each call is one transaction: a guarded `UPDATE`, or a
block under `BEGIN IMMEDIATE` that an exception rolls back. The two stores answer alike from
any states that hold the same actions. -/

namespace Taroai.Store

open Raising

/-- A row of `agent_actions`. -/
structure ActionRow (J : Type) where
  id : String
  tenantId : String
  workspaceId : String
  runId : String
  cycleId : String
  threadId : Option String
  actionKey : String
  decision : J
  status : ActionStatus
  observation : Option (AgentObservation J)
  failureClass : Option String
  leaseOwnerId : Option String
  leaseExpiresAt : Option String
  leaseGeneration : Nat
  usage : Dict J
  startedAt : Option String
  completedAt : Option String

namespace ActionRow

variable {J : Type}

/-- The fence in the `WHERE` clause of the renewal and of the commit. -/
def leasedTo (row : ActionRow J) (owner : String) (generation : Nat) (now : String) : Bool :=
  decide (row.status = .running) && decide (row.leaseOwnerId = some owner) &&
    decide (row.leaseGeneration = generation) &&
    row.leaseExpiresAt.any fun expiry => decide (now < expiry)

/-- `status = 'running' AND (lease_expires_at IS NULL OR lease_expires_at <= ?)`. -/
def leaseLapsed (row : ActionRow J) (now : String) : Bool :=
  decide (row.status = .running) && row.leaseExpiresAt.all fun expiry => decide (expiry ≤ now)

def claimed (row : ActionRow J) (owner expiry claimedAt : String) : ActionRow J :=
  { row with
    status := .running
    leaseOwnerId := some owner
    leaseExpiresAt := some expiry
    leaseGeneration := row.leaseGeneration + 1
    startedAt := some claimedAt }

def renewed (row : ActionRow J) (expiry : String) : ActionRow J :=
  { row with leaseExpiresAt := some expiry }

def uncertain (row : ActionRow J) : ActionRow J :=
  { row with
    status := .uncertain
    leaseOwnerId := none
    leaseExpiresAt := none }

def committed (row : ActionRow J) (observation : AgentObservation J) (usage : Dict J)
    (completedAt : String) : ActionRow J :=
  { row with
    status := if observation.success then .succeeded else .failed
    observation := some observation
    failureClass := observation.failureClass
    leaseOwnerId := none
    leaseExpiresAt := none
    usage := usage
    completedAt := some completedAt }

end ActionRow

structure AgentDatabase (J : Type) where
  runs : Table Run.id
  actions : Table (ActionRow.id (J := J))
  checkpoints : List (AgentCheckpoint J)

namespace AgentDatabase

variable {J : Type}

abbrev Op (J α : Type) := Raising StoreError (AgentDatabase J) α

/-- `with self._connect()`: what the block wrote is dropped when it raises. -/
def connect {α : Type} (block : Op J α) : Op J α := fun db =>
  match block db with
  | (.ok answer, after) => (.ok answer, after)
  | (.error e, _) => (.error e, db)

def leaseTime (value : DateTime) : Op J Time :=
  match value.toUtc? with
  | none => raise (.value "Agent action lease times must be timezone-aware")
  | some time => pure time

def leaseExpiration (now : Time) (leaseSeconds : Int) : Op J Time := do
  ensure (1 ≤ leaseSeconds) (.value "lease_seconds must be at least 1")
  return now + seconds leaseSeconds

/-- `UPDATE agent_actions SET … WHERE tenant_id = ? AND id = ? AND … RETURNING *`. -/
def updateAction (tenantId actionId : String) (condition : ActionRow J → Bool)
    (set : ActionRow J → ActionRow J) : Op J (Option (ActionRow J)) := do
  match (← read fun db => db.actions.get? actionId) with
  | none => return none
  | some row =>
    if row.tenantId = tenantId ∧ condition row = true then do
      update fun db => { db with actions := db.actions.put (set row) }
      return some (set row)
    else return none

def claimAgentAction (tenantId actionId leaseOwnerId : String) (leaseSeconds : Int)
    (now : DateTime) : Op J (Option (ActionRow J)) := do
  let claimedAt ← leaseTime now
  let expiry ← leaseExpiration claimedAt leaseSeconds
  ensure (leaseOwnerId ≠ "") (.value "lease_owner_id must not be empty")
  connect (updateAction tenantId actionId (fun row => row.status = .pending)
    fun row => row.claimed leaseOwnerId (isoformat expiry) (isoformat claimedAt))

def renewAgentActionLease (tenantId actionId leaseOwnerId : String) (leaseGeneration : Nat)
    (leaseSeconds : Int) (now : DateTime) : Op J (Option (ActionRow J)) := do
  let renewedAt ← leaseTime now
  let expiry ← leaseExpiration renewedAt leaseSeconds
  connect (updateAction tenantId actionId
    (fun row => row.leasedTo leaseOwnerId leaseGeneration (isoformat renewedAt))
    fun row => row.renewed (isoformat expiry))

def recoverEach (tenantId recoveredAt : String) : List String → Op J (List (ActionRow J))
  | [] => return []
  | candidate :: rest => do
    let row ← updateAction tenantId candidate (fun row => row.leaseLapsed recoveredAt)
      ActionRow.uncertain
    let recovered ← recoverEach tenantId recoveredAt rest
    return row.toList ++ recovered

def recoverExpiredAgentActions (tenantId : String) (now : DateTime) (limit : Int) :
    Op J (List (ActionRow J)) := do
  ensure (1 ≤ limit) (.value "limit must be at least 1")
  let recoveredAt ← leaseTime now
  connect do
    let lapsed ← read fun db => db.actions.entries.filter fun row =>
      decide (row.tenantId = tenantId) && row.leaseLapsed (isoformat recoveredAt)
    recoverEach tenantId (isoformat recoveredAt)
      (((lapsed.map ActionRow.id).insertionSort fun a b => a ≤ b).take limit.toNat)

def lockRunForSequence (tenantId runId : String) : Op J Unit := do
  let found ← read fun db => (db.runs.get? runId).any fun run => run.tenantId = tenantId
  ensure (found = true) (.notFound s!"Run not found: {runId}")

def nextCheckpointSequence (db : AgentDatabase J) (tenantId runId : String) : Nat :=
  ((db.checkpoints.filter fun c => c.tenantId = tenantId ∧ c.runId = runId).map
    AgentCheckpoint.sequence).foldr max 0 + 1

def commitCheckpoint (db : AgentDatabase J) (action : ActionRow J)
    (request : AgentStore.CommitRequest J) (completedAt : Time) (nonempty : request.checksum ≠ "") :
    AgentCheckpoint J where
  id := request.checkpointId
  tenantId := action.tenantId
  workspaceId := action.workspaceId
  threadId := action.threadId
  runId := action.runId
  cycleId := some action.cycleId
  sequence := db.nextCheckpointSequence action.tenantId action.runId
  lastCommittedActionId := some action.id
  statePayload := request.statePayload
  sandboxCheckpointRef := request.sandboxCheckpointRef
  checksum := request.checksum
  createdAt := completedAt
  sequence_pos := Nat.le_add_left 1 _
  checksum_nonempty := nonempty

/-- `SELECT * FROM agent_actions WHERE tenant_id = ? AND id = ?`, which must find a row. -/
def getAgentAction (tenantId actionId : String) : Op J (ActionRow J) := do
  let found ← read fun db =>
    (db.actions.get? actionId).filter fun row => row.tenantId = tenantId
  match found with
  | none => raise (.notFound s!"Agent action not found: {actionId}")
  | some row => return row

variable (jsonable : J → Bool)

def commitAgentActionObservation (tenantId actionId : String)
    (request : AgentStore.CommitRequest J) : Op J (ActionRow J) := do
  ensure (request.observation.output.all (Value.jsonable jsonable) = true ∧
    request.usage.all (Value.jsonable jsonable) = true ∧ jsonable request.statePayload = true)
    .notSerialisable
  connect do
    let action ← getAgentAction tenantId actionId
    ensure (request.observation.actionId = action.id)
      (.value "Observation action_id does not match the committed action")
    let completedAt ← leaseTime request.now
    let committed ← updateAction tenantId actionId
      (fun row => row.leasedTo request.leaseOwnerId request.leaseGeneration (isoformat completedAt))
      fun row => row.committed request.observation request.usage (isoformat completedAt)
    match committed with
    | none => raise (.leaseConflict s!"Agent action {actionId} lease fence is no longer valid")
    | some updated => do
      lockRunForSequence tenantId action.runId
      if nonempty : request.checksum ≠ "" then do
        update fun db =>
          { db with
            checkpoints := db.checkpoints ++
              [db.commitCheckpoint action request completedAt nonempty] }
        return updated
      else raise .validation

end AgentDatabase

section Mirror

variable {J : Type}

/-- The row holds the action. Only a running action has a lease to compare; the texts of its
start and its completion are not read by any condition. -/
structure ActionRow.Holds (row : ActionRow J) (action : AgentAction J) : Prop where
  id : row.id = action.id
  tenantId : row.tenantId = action.tenantId
  workspaceId : row.workspaceId = action.workspaceId
  runId : row.runId = action.runId
  cycleId : row.cycleId = action.cycleId
  threadId : row.threadId = action.threadId
  actionKey : row.actionKey = action.actionKey
  decision : row.decision = action.decision
  status : row.status = action.status
  observation : row.observation = action.observation
  failureClass : row.failureClass = action.failureClass
  leaseOwnerId : row.leaseOwnerId = action.leaseOwnerId
  leaseGeneration : row.leaseGeneration = action.leaseGeneration
  usage : row.usage = action.usage
  leaseExpiresAt : action.status = .running →
    row.leaseExpiresAt = action.leaseExpiresAt.map isoformat
  representable : action.status = .running → ∀ expiry ∈ action.leaseExpiresAt, Representable expiry

/-- The database holds what the store holds. The foreign key of an action is a run of its
tenant, and so is that of a checkpoint. -/
structure AgentDatabase.Mirrors (db : AgentDatabase J) (s : AgentStore J) : Prop where
  actions : List.Forall₂ ActionRow.Holds db.actions.entries s.actions.entries
  checkpoints : db.checkpoints = s.checkpoints
  homed : ∀ row ∈ db.actions.entries, ∃ run, db.runs.get? row.runId = some run ∧
    run.tenantId = row.tenantId
  numbered : ∀ checkpoint ∈ db.checkpoints, ∃ run, db.runs.get? checkpoint.runId = some run ∧
    run.tenantId = checkpoint.tenantId

namespace ActionRow.Holds

variable {row : ActionRow J} {action : AgentAction J}

theorem leasedTo (holds : row.Holds action) {owner : String} {generation : Nat} {now : Time}
    (held : Representable now) :
    row.leasedTo owner generation (isoformat now) = action.leasedTo owner generation now := by
  unfold ActionRow.leasedTo AgentAction.leasedTo
  rw [holds.status, holds.leaseOwnerId, holds.leaseGeneration]
  by_cases running : action.status = .running
  · rw [holds.leaseExpiresAt running]
    cases lease : action.leaseExpiresAt with
    | none => rfl
    | some expiry =>
      have fits := holds.representable running expiry lease
      simp only [Option.map_some, Option.any_some, isoformat_lt held fits]
  · simp [running]

theorem leaseLapsed (holds : row.Holds action) (tenantId : String) {now : Time}
    (held : Representable now) :
    (decide (row.tenantId = tenantId) && row.leaseLapsed (isoformat now)) =
      action.leaseLapsed tenantId now := by
  unfold ActionRow.leaseLapsed AgentAction.leaseLapsed
  rw [holds.status, holds.tenantId, Bool.and_assoc]
  by_cases running : action.status = .running
  · rw [holds.leaseExpiresAt running]
    cases lease : action.leaseExpiresAt with
    | none => rfl
    | some expiry =>
      have fits := holds.representable running expiry lease
      have order : isoformat expiry ≤ isoformat now ↔ expiry ≤ now := by
        rw [← String.not_lt, isoformat_lt held fits, not_lt]
      simp only [Option.map_some, Option.all_some, order]
  · simp [running]

theorem claimed (holds : row.Holds action) (owner : String) {expiry : Time}
    (held : Representable expiry) (claimedAt : Time) :
    (row.claimed owner (isoformat expiry) (isoformat claimedAt)).Holds
      (action.claimed owner expiry claimedAt) :=
  { holds with
    status := rfl
    leaseOwnerId := rfl
    leaseGeneration := congrArg (· + 1) holds.leaseGeneration
    leaseExpiresAt := fun _ => rfl
    representable := by
      rintro - _ ⟨⟩
      exact held }

theorem renewed (holds : row.Holds action) {expiry : Time} (held : Representable expiry) :
    (row.renewed (isoformat expiry)).Holds (action.renewed expiry) :=
  { holds with
    leaseExpiresAt := fun _ => rfl
    representable := by
      rintro - _ ⟨⟩
      exact held }

theorem uncertain (holds : row.Holds action) : row.uncertain.Holds action.uncertain :=
  { holds with
    status := rfl
    leaseOwnerId := rfl
    leaseExpiresAt := fun _ => rfl
    representable := by
      rintro - _ ⟨⟩ }

theorem committed (holds : row.Holds action) (observation : AgentObservation J) (usage : Dict J)
    (completedAt : Time) :
    (row.committed observation usage (isoformat completedAt)).Holds
      (action.committed observation usage completedAt) :=
  { holds with
    status := rfl
    observation := rfl
    failureClass := rfl
    leaseOwnerId := rfl
    usage := rfl
    leaseExpiresAt := fun _ => rfl
    representable := by
      rintro - _ ⟨⟩ }

end ActionRow.Holds

namespace AgentDatabase

variable {db : AgentDatabase J} {s : AgentStore J}

theorem Mirrors.get? (mirrors : db.Mirrors s) (actionId : String) :
    Option.Rel ActionRow.Holds (db.actions.get? actionId) (s.actions.get? actionId) :=
  Table.get?_related (fun _ _ holds => holds.id) mirrors.actions actionId

theorem Mirrors.put (mirrors : db.Mirrors s) {row updated : ActionRow J} {action : AgentAction J}
    (stored : db.actions.get? row.id = some row) (holds : updated.Holds action)
    (id : updated.id = row.id) (tenantId : updated.tenantId = row.tenantId)
    (runId : updated.runId = row.runId) :
    ({ db with actions := db.actions.put updated } : AgentDatabase J).Mirrors
      { s with actions := s.actions.put action } where
  actions := by
    refine Table.put_related (fun _ _ pair => pair.id) mirrors.actions holds ?_
    rw [id, stored, Option.isSome_some]
  checkpoints := mirrors.checkpoints
  homed := by
    intro other member
    rcases Table.mem_put.mp member with rfl | ⟨member, -⟩
    · rw [tenantId, runId]
      exact mirrors.homed row (Table.mem_of_get? stored)
    · exact mirrors.homed other member
  numbered := mirrors.numbered

theorem leaseTime_agree (mirrors : db.Mirrors s) (value : DateTime) :
    Agree Mirrors (fun a b => a = b ∧ value.toUtc? = some a) (leaseTime value db)
      (AgentStore.leaseTime value s) := by
  unfold leaseTime AgentStore.leaseTime
  cases value.toUtc? with
  | none => exact agree_raise mirrors _ _
  | some time => exact agree_pure mirrors ⟨rfl, rfl⟩

theorem leaseExpiration_agree (mirrors : db.Mirrors s) (now : Time) (leaseSeconds : Int) :
    Agree Mirrors (fun a b => a = b ∧ a = now + seconds leaseSeconds)
      (leaseExpiration now leaseSeconds db) (AgentStore.leaseExpiration now leaseSeconds s) := by
  refine (agree_ensure mirrors Iff.rfl _ _).bind fun _ _ db' s' _ _ _ mirrors' => ?_
  exact agree_pure mirrors' ⟨rfl, rfl⟩

def updateStored (tenantId actionId : String) (guard : AgentAction J → Prop) [DecidablePred guard]
    (set : AgentAction J → AgentAction J) : AgentStore.Op J (Option (AgentAction J)) := do
  match (← read fun s => s.actions.get? actionId) with
  | none => return none
  | some action =>
    if action.tenantId = tenantId ∧ guard action then do
      AgentStore.putAction (set action)
      return some (set action)
    else return none

theorem updateAction_agree (mirrors : db.Mirrors s) {tenantId actionId : String}
    {condition : ActionRow J → Bool} {set : ActionRow J → ActionRow J}
    (guard : AgentAction J → Prop) [DecidablePred guard] {set' : AgentAction J → AgentAction J}
    (alike : ∀ row action, row.Holds action → (condition row = true ↔ guard action))
    (edits : ∀ row action, row.Holds action → (set row).Holds (set' action))
    (keeps : ∀ row, (set row).id = row.id ∧ (set row).tenantId = row.tenantId ∧
      (set row).runId = row.runId) :
    Agree Mirrors (Option.Rel ActionRow.Holds) (updateAction tenantId actionId condition set db)
      (updateStored tenantId actionId guard set' s) := by
  have lookup := mirrors.get? actionId
  unfold updateAction updateStored
  rw [read_bind, read_bind]
  cases stored : db.actions.get? actionId with
  | none =>
    rw [stored] at lookup
    cases stored' : s.actions.get? actionId with
    | none => exact agree_pure mirrors .none
    | some action =>
      rw [stored'] at lookup
      cases lookup
  | some row =>
    rw [stored] at lookup
    cases stored' : s.actions.get? actionId with
    | none =>
      rw [stored'] at lookup
      cases lookup
    | some action =>
      rw [stored'] at lookup
      cases lookup with
      | some holds =>
        dsimp only
        have same : row.tenantId = tenantId ∧ condition row = true ↔
            action.tenantId = tenantId ∧ guard action := by
          rw [holds.tenantId, alike row action holds]
        by_cases hit : action.tenantId = tenantId ∧ guard action
        · rw [if_pos (same.mpr hit), if_pos hit]
          have key : row.id = actionId := Table.key_of_get? stored
          obtain ⟨id, tenant, run⟩ := keeps row
          refine ⟨mirrors.put (by rw [key, stored]) (edits row action holds) id tenant run, ?_⟩
          exact .some (edits row action holds)
        · rw [if_neg fun both => hit (same.mp both), if_neg hit]
          exact agree_pure mirrors .none

theorem connect_agree {α β : Type} {block : Op J α} {R : α → β → Prop}
    {run : Except StoreError β × AgentStore J} (mirrors : db.Mirrors s)
    (agree : Agree Mirrors R (block db) run) (untouched : ∀ e, run.1 = .error e → run.2 = s) :
    Agree Mirrors R (connect block db) run := by
  unfold connect
  obtain ⟨states, results⟩ := agree
  cases ran : block db with
  | mk answer after =>
    rw [ran] at states results
    cases answer with
    | ok a => exact ⟨states, results⟩
    | error e =>
      cases answer' : run.1 with
      | ok b =>
        rw [answer'] at results
        exact results.elim
      | error e' =>
        refine ⟨?_, ?_⟩
        · rw [untouched e' answer']
          exact mirrors
        · rw [answer']
          trivial

theorem updateStored_ok (tenantId actionId : String) (guard : AgentAction J → Prop)
    [DecidablePred guard] (set : AgentAction J → AgentAction J) (s : AgentStore J) :
    ∃ answer, (updateStored tenantId actionId guard set s).1 = .ok answer := by
  unfold updateStored
  rw [read_bind]
  cases s.actions.get? actionId with
  | none => exact ⟨_, rfl⟩
  | some action =>
    dsimp only
    split <;> exact ⟨_, rfl⟩

theorem connect_updateAction_agree (mirrors : db.Mirrors s) {tenantId actionId : String}
    {condition : ActionRow J → Bool} {set : ActionRow J → ActionRow J}
    (guard : AgentAction J → Prop) [DecidablePred guard] {set' : AgentAction J → AgentAction J}
    (alike : ∀ row action, row.Holds action → (condition row = true ↔ guard action))
    (edits : ∀ row action, row.Holds action → (set row).Holds (set' action))
    (keeps : ∀ row, (set row).id = row.id ∧ (set row).tenantId = row.tenantId ∧
      (set row).runId = row.runId) :
    Agree Mirrors (Option.Rel ActionRow.Holds)
      (connect (updateAction tenantId actionId condition set) db)
      (updateStored tenantId actionId guard set' s) := by
  refine connect_agree mirrors (updateAction_agree mirrors guard alike edits keeps) fun e failed => ?_
  obtain ⟨answer, ok⟩ := updateStored_ok tenantId actionId guard set' s
  rw [ok] at failed
  cases failed

theorem claim_agree (mirrors : db.Mirrors s) (tenantId actionId owner : String)
    {leaseSeconds : Int} {now : DateTime}
    (fits : ∀ t, now.toUtc? = some t → Representable (t + seconds leaseSeconds)) :
    Agree Mirrors (Option.Rel ActionRow.Holds)
      (claimAgentAction tenantId actionId owner leaseSeconds now db)
      (AgentStore.claimAgentAction tenantId actionId owner leaseSeconds now s) := by
  refine (leaseTime_agree mirrors now).bind fun claimedAt _ db s _ _ times mirrors => ?_
  obtain ⟨rfl, read⟩ := times
  refine (leaseExpiration_agree mirrors claimedAt leaseSeconds).bind
    fun expiry _ db s _ _ expiries mirrors => ?_
  obtain ⟨rfl, rfl⟩ := expiries
  refine (agree_ensure mirrors Iff.rfl _ _).bind fun _ _ db s _ _ _ mirrors => ?_
  exact connect_updateAction_agree mirrors (fun action => action.status = .pending)
    (fun row action holds => by rw [decide_eq_true_iff, holds.status])
    (fun row action holds => holds.claimed owner (fits claimedAt read) claimedAt)
    fun row => ⟨rfl, rfl, rfl⟩

theorem renew_agree (mirrors : db.Mirrors s) (tenantId actionId owner : String)
    (generation : Nat) {leaseSeconds : Int} {now : DateTime}
    (fits : ∀ t, now.toUtc? = some t → Representable t ∧ Representable (t + seconds leaseSeconds)) :
    Agree Mirrors (Option.Rel ActionRow.Holds)
      (renewAgentActionLease tenantId actionId owner generation leaseSeconds now db)
      (AgentStore.renewAgentActionLease tenantId actionId owner generation leaseSeconds now s) := by
  refine (leaseTime_agree mirrors now).bind fun renewedAt _ db s _ _ times mirrors => ?_
  obtain ⟨rfl, read⟩ := times
  refine (leaseExpiration_agree mirrors renewedAt leaseSeconds).bind
    fun expiry _ db s _ _ expiries mirrors => ?_
  obtain ⟨rfl, rfl⟩ := expiries
  exact connect_updateAction_agree mirrors
    (fun action => action.leasedTo owner generation renewedAt = true)
    (fun row action holds => by rw [holds.leasedTo (fits renewedAt read).1])
    (fun row action holds => holds.renewed (fits renewedAt read).2) fun row => ⟨rfl, rfl, rfl⟩

theorem recoverEach_agree {tenantId : String} {recoveredAt : Time} (held : Representable recoveredAt)
    (candidates : List (AgentAction J)) (mirrors : db.Mirrors s)
    (distinct : (candidates.map AgentAction.id).Nodup)
    (stored : ∀ action ∈ candidates, s.actions.get? action.id = some action ∧
      action.leaseLapsed tenantId recoveredAt = true) :
    Agree Mirrors
      (fun rows (_ : Unit) => List.Forall₂ ActionRow.Holds rows (candidates.map AgentAction.uncertain))
      (recoverEach tenantId (isoformat recoveredAt) (candidates.map AgentAction.id) db)
      (each candidates (fun action => AgentStore.putAction action.uncertain) s) := by
  induction candidates generalizing db s with
  | nil => exact agree_pure mirrors .nil
  | cons action rest ih =>
    rw [List.map_cons, List.nodup_cons] at distinct
    obtain ⟨here, lapsed⟩ := stored action List.mem_cons_self
    have lookup := mirrors.get? action.id
    cases found : db.actions.get? action.id with
    | none =>
      rw [found, here] at lookup
      cases lookup
    | some row =>
      rw [found, here] at lookup
      cases lookup with
      | some holds =>
        have stored_row : db.actions.get? row.id = some row := by
          rw [Table.key_of_get? found, found]
        have hit : row.tenantId = tenantId ∧ row.leaseLapsed (isoformat recoveredAt) = true := by
          have same := holds.leaseLapsed tenantId held
          rwa [lapsed, Bool.and_eq_true, decide_eq_true_iff] at same
        have written : updateAction tenantId action.id
            (fun row => row.leaseLapsed (isoformat recoveredAt)) ActionRow.uncertain db =
            (.ok (some row.uncertain), { db with actions := db.actions.put row.uncertain }) := by
          unfold updateAction
          rw [read_bind, found]
          dsimp only
          rw [if_pos hit]
          rfl
        have next := ih (mirrors.put stored_row holds.uncertain rfl rfl rfl) distinct.2
          (fun other member => by
            have differs : other.id ≠ action.uncertain.id := fun same =>
              distinct.1 (same ▸ List.mem_map_of_mem member)
            rw [Table.get?_put_ne _ _ differs]
            exact stored other (List.mem_cons_of_mem _ member))
        rw [List.map_cons, List.map_cons, recoverEach, bind_of_ok written]
        exact next.map_left _ fun rows _ recovered => recovered.cons holds.uncertain

theorem each_put_ok (candidates : List (AgentAction J)) (s : AgentStore J) :
    ∃ after, each candidates (fun action => AgentStore.putAction action.uncertain) s =
      (.ok (), after) := by
  induction candidates generalizing s with
  | nil => exact ⟨s, rfl⟩
  | cons action rest ih => exact ih _

theorem recover_agree (mirrors : db.Mirrors s) {tenantId : String} {now : DateTime} {limit : Int}
    (fits : ∀ t, now.toUtc? = some t → Representable t) :
    Agree Mirrors (List.Forall₂ ActionRow.Holds)
      (recoverExpiredAgentActions tenantId now limit db)
      (AgentStore.recoverExpiredAgentActions tenantId now limit s) := by
  refine (agree_ensure mirrors Iff.rfl _ _).bind fun _ _ db s _ _ _ mirrors => ?_
  refine (leaseTime_agree mirrors now).bind fun recoveredAt _ db s _ _ times mirrors => ?_
  obtain ⟨rfl, time⟩ := times
  have held := fits recoveredAt time
  rw [read_bind]
  let lapsed := s.actions.entries.filter fun action => action.leaseLapsed tenantId recoveredAt
  let candidates := (lapsed.insertionSort fun a b => a.id ≤ b.id).take limit.toNat
  have filtered := Table.keys_filter_related (fun _ _ pair => pair.id)
    (fun row action holds => holds.leaseLapsed tenantId held) mirrors.actions
  have ids : ((((db.actions.entries.filter fun row =>
      decide (row.tenantId = tenantId) && row.leaseLapsed (isoformat recoveredAt)).map
      ActionRow.id).insertionSort fun a b => a ≤ b).take limit.toNat) =
      candidates.map AgentAction.id := by
    rw [filtered, List.map_take, List.map_insertionSort (fun a b : AgentAction J => a.id ≤ b.id)
      (fun a b => a ≤ b) AgentAction.id lapsed fun _ _ _ _ => Iff.rfl]
  have member : ∀ action ∈ candidates, action ∈ lapsed := fun action chosen => by
    have sorted := List.mem_of_mem_take chosen
    rwa [List.mem_insertionSort] at sorted
  have distinct : (candidates.map AgentAction.id).Nodup := by
    rw [← ids]
    refine (List.take_sublist _ _).nodup ((List.perm_insertionSort _ _).nodup_iff.mpr ?_)
    exact (List.filter_sublist.map ActionRow.id).nodup db.actions.nodup
  have loop := recoverEach_agree held candidates mirrors distinct fun action chosen => by
    obtain ⟨stored, lapsed⟩ := List.mem_filter.mp (member action chosen)
    exact ⟨Table.get?_of_mem stored, lapsed⟩
  obtain ⟨after, ran⟩ := each_put_ok candidates s
  refine (connect_agree mirrors ?_ fun e failed => ?_).map_right (R := fun rows (_ : Unit) =>
    List.Forall₂ ActionRow.Holds rows (candidates.map AgentAction.uncertain)) _ fun _ _ rows => rows
  · rw [read_bind, ids]
    exact loop
  · rw [ran] at failed
    cases failed

theorem Mirrors.raised {α β : Type} {R : α → β → Prop} (mirrors : db.Mirrors s) {block : Op J α}
    (raises : (block db).1.toOption = none) (e' : StoreError) :
    Agree Mirrors R (connect block db) (.error e', s) := by
  unfold connect
  cases ran : block db with
  | mk answer after =>
    rw [ran] at raises
    cases answer with
    | ok a => cases raises
    | error e => exact ⟨mirrors, trivial⟩

theorem Mirrors.nextCheckpointSequence (mirrors : db.Mirrors s) {row : ActionRow J}
    (stored : row ∈ db.actions.entries) :
    db.nextCheckpointSequence row.tenantId row.runId = s.nextCheckpointSequence row.runId := by
  obtain ⟨run, home, tenant⟩ := mirrors.homed row stored
  unfold AgentDatabase.nextCheckpointSequence AgentStore.nextCheckpointSequence
  rw [← mirrors.checkpoints]
  have same : db.checkpoints.filter (fun c => c.tenantId = row.tenantId ∧ c.runId = row.runId) =
      db.checkpoints.filter fun c => c.runId = row.runId := by
    refine List.filter_congr fun checkpoint member => ?_
    rw [decide_eq_decide]
    refine ⟨And.right, fun run_eq => ⟨?_, run_eq⟩⟩
    obtain ⟨other, home', tenant'⟩ := mirrors.numbered checkpoint member
    rw [run_eq, home] at home'
    rw [← tenant', ← tenant, Option.some.inj home']
  rw [same]

theorem Mirrors.checkpoint (mirrors : db.Mirrors s) {checkpoint : AgentCheckpoint J}
    (homed : ∃ run, db.runs.get? checkpoint.runId = some run ∧ run.tenantId = checkpoint.tenantId) :
    ({ db with checkpoints := db.checkpoints ++ [checkpoint] } : AgentDatabase J).Mirrors
      { s with checkpoints := s.checkpoints ++ [checkpoint] } where
  actions := mirrors.actions
  checkpoints := congrArg (· ++ [checkpoint]) mirrors.checkpoints
  homed := mirrors.homed
  numbered := by
    intro other member
    rcases List.mem_append.mp member with member | member
    · exact mirrors.numbered other member
    · rw [List.mem_singleton.mp member]
      exact homed

theorem Mirrors.getAgentAction_cases (mirrors : db.Mirrors s) (tenantId actionId : String) :
    (∃ e e', getAgentAction tenantId actionId db = (.error e, db) ∧
      AgentStore.getAgentAction tenantId actionId s = (.error e', s)) ∨
    ∃ row action, getAgentAction tenantId actionId db = (.ok row, db) ∧
      AgentStore.getAgentAction tenantId actionId s = (.ok action, s) ∧ row.Holds action ∧
      db.actions.get? actionId = some row ∧ row.tenantId = tenantId := by
  have lookup := mirrors.get? actionId
  unfold getAgentAction AgentStore.getAgentAction
  rw [read_bind, read_bind]
  cases found : db.actions.get? actionId with
  | none =>
    rw [found] at lookup
    cases stored : s.actions.get? actionId with
    | none => exact .inl ⟨_, _, rfl, rfl⟩
    | some action =>
      rw [stored] at lookup
      cases lookup
  | some row =>
    rw [found] at lookup
    cases stored : s.actions.get? actionId with
    | none =>
      rw [stored] at lookup
      cases lookup
    | some action =>
      rw [stored] at lookup
      cases lookup with
      | some holds =>
        dsimp only
        rw [ensure_bind]
        by_cases own : action.tenantId = tenantId
        · have own_row : row.tenantId = tenantId := holds.tenantId.trans own
          rw [if_pos own, Option.filter_some, if_pos (decide_eq_true own_row)]
          exact .inr ⟨row, action, rfl, rfl, holds, rfl, own_row⟩
        · have other_row : ¬row.tenantId = tenantId := fun same => own (holds.tenantId ▸ same)
          rw [if_neg own, Option.filter_some, if_neg (by simpa using other_row)]
          exact .inl ⟨_, _, rfl, rfl⟩

theorem commit_agree (jsonable : J → Bool) (mirrors : db.Mirrors s) (tenantId actionId : String)
    {request : AgentStore.CommitRequest J}
    (fits : ∀ t, request.now.toUtc? = some t → Representable t) :
    Agree Mirrors ActionRow.Holds
      (commitAgentActionObservation jsonable tenantId actionId request db)
      (AgentStore.commitAgentActionObservation jsonable tenantId actionId request s) := by
  refine (agree_ensure mirrors Iff.rfl _ _).bind fun _ _ db s _ _ _ mirrors => ?_
  rcases mirrors.getAgentAction_cases tenantId actionId with
    ⟨e, e', missing, missing'⟩ | ⟨row, action, found, found', holds, stored, tenant⟩
  · rw [bind_of_error missing']
    refine mirrors.raised ?_ _
    rw [bind_of_error missing]
    rfl
  rw [bind_of_ok found', ensure_bind]
  by_cases matching : request.observation.actionId = action.id
  swap
  · rw [if_neg matching]
    refine mirrors.raised ?_ _
    rw [bind_of_ok found, ensure_bind, if_neg (by rwa [holds.id])]
    rfl
  have matching_row : request.observation.actionId = row.id := by rwa [holds.id]
  rw [if_pos matching]
  cases known : request.now.toUtc? with
  | none =>
    have naive : AgentStore.leaseTime request.now s =
        (.error (.value "Agent action lease times must be timezone-aware"), s) := by
      unfold AgentStore.leaseTime
      rw [known]
      rfl
    rw [bind_of_error naive]
    refine mirrors.raised ?_ _
    rw [bind_of_ok found, ensure_bind, if_pos matching_row]
    unfold leaseTime
    rw [known]
    rfl
  | some completedAt =>
    have time : leaseTime request.now db = (.ok completedAt, db) := by
      unfold leaseTime
      rw [known]
      rfl
    have time' : AgentStore.leaseTime request.now s = (.ok completedAt, s) := by
      unfold AgentStore.leaseTime
      rw [known]
      rfl
    have fence : row.leasedTo request.leaseOwnerId request.leaseGeneration (isoformat completedAt) =
        action.leasedTo request.leaseOwnerId request.leaseGeneration completedAt :=
      holds.leasedTo (fits completedAt known)
    have homed := mirrors.homed row (Table.mem_of_get? stored)
    have key : row.id = actionId := Table.key_of_get? stored
    rw [bind_of_ok time', ensure_bind]
    by_cases leased : action.leasedTo request.leaseOwnerId request.leaseGeneration completedAt = true
    swap
    · have kept : updateAction tenantId actionId
          (fun row => row.leasedTo request.leaseOwnerId request.leaseGeneration (isoformat completedAt))
          (fun row => row.committed request.observation request.usage (isoformat completedAt)) db =
          (.ok none, db) := by
        unfold updateAction
        rw [read_bind, stored]
        dsimp only
        rw [if_neg (by rw [fence]; exact fun both => leased both.2)]
        rfl
      rw [if_neg leased]
      refine mirrors.raised ?_ _
      rw [bind_of_ok found, ensure_bind, if_pos matching_row, bind_of_ok time, bind_of_ok kept]
      rfl
    let updated := row.committed request.observation request.usage (isoformat completedAt)
    let written : AgentDatabase J := { db with actions := db.actions.put updated }
    have wrote : updateAction tenantId actionId
        (fun row => row.leasedTo request.leaseOwnerId request.leaseGeneration (isoformat completedAt))
        (fun row => row.committed request.observation request.usage (isoformat completedAt)) db =
        (.ok (some updated), written) := by
      unfold updateAction
      rw [read_bind, stored]
      dsimp only
      rw [if_pos ⟨tenant, fence.trans leased⟩]
      rfl
    have locked : lockRunForSequence tenantId row.runId written = (.ok (), written) := by
      obtain ⟨run, home, own⟩ := homed
      unfold lockRunForSequence
      rw [read_bind]
      change ensure ((db.runs.get? row.runId).any (fun run => run.tenantId = tenantId) = true) _
        written = _
      rw [home]
      exact ensure_eq_ok.mpr ⟨by simp [own, tenant], rfl⟩
    rw [if_pos leased]
    by_cases nonempty : request.checksum ≠ ""
    swap
    · rw [dif_neg nonempty]
      refine mirrors.raised ?_ _
      rw [bind_of_ok found, ensure_bind, if_pos matching_row, bind_of_ok time, bind_of_ok wrote]
      dsimp only
      rw [bind_of_ok locked, dif_neg nonempty]
      rfl
    rw [dif_pos nonempty]
    have point : written.commitCheckpoint row request completedAt nonempty =
        s.commitCheckpoint action request completedAt nonempty := by
      have number : written.nextCheckpointSequence action.tenantId action.runId =
          s.nextCheckpointSequence action.runId := by
        rw [← holds.runId, ← holds.tenantId]
        exact mirrors.nextCheckpointSequence (Table.mem_of_get? stored)
      unfold commitCheckpoint AgentStore.commitCheckpoint
      simp only [number, holds.tenantId, holds.workspaceId, holds.threadId, holds.runId,
        holds.cycleId, holds.id]
    have stored_row : db.actions.get? row.id = some row := by rw [key, stored]
    have edited := mirrors.put stored_row
      (holds.committed request.observation request.usage completedAt) rfl rfl rfl
    refine connect_agree mirrors ?_ fun e failed => by cases failed
    rw [bind_of_ok found, ensure_bind, if_pos matching_row, bind_of_ok time, bind_of_ok wrote]
    dsimp only
    rw [bind_of_ok locked, dif_pos nonempty, update_bind, update_bind, point]
    obtain ⟨run, home, own⟩ := homed
    rw [holds.runId] at home
    exact agree_pure (edited.checkpoint ⟨run, home, own.trans holds.tenantId⟩)
      (holds.committed request.observation request.usage completedAt)

end AgentDatabase

end Mirror

section Calls

variable {J : Type}

inductive LeaseCall (J : Type) where
  | claim (tenantId actionId leaseOwnerId : String) (leaseSeconds : Int) (now : DateTime)
  | renew (tenantId actionId leaseOwnerId : String) (leaseGeneration : Nat) (leaseSeconds : Int)
      (now : DateTime)
  | recoverExpired (tenantId : String) (now : DateTime) (limit : Int)
  | commit (tenantId actionId : String) (request : AgentStore.CommitRequest J)

namespace LeaseCall

variable (jsonable : J → Bool)

def sql : LeaseCall J → AgentDatabase.Op J (List (ActionRow J))
  | claim tenantId actionId owner leaseSeconds now => do
    let claimed ← AgentDatabase.claimAgentAction tenantId actionId owner leaseSeconds now
    return claimed.toList
  | renew tenantId actionId owner generation leaseSeconds now => do
    let renewed ←
      AgentDatabase.renewAgentActionLease tenantId actionId owner generation leaseSeconds now
    return renewed.toList
  | recoverExpired tenantId now limit =>
    AgentDatabase.recoverExpiredAgentActions tenantId now limit
  | commit tenantId actionId request => do
    let committed ←
      AgentDatabase.commitAgentActionObservation jsonable tenantId actionId request
    return [committed]

def memory : LeaseCall J → AgentStore.Op J (List (AgentAction J))
  | claim tenantId actionId owner leaseSeconds now => do
    let claimed ← AgentStore.claimAgentAction tenantId actionId owner leaseSeconds now
    return claimed.toList
  | renew tenantId actionId owner generation leaseSeconds now => do
    let renewed ←
      AgentStore.renewAgentActionLease tenantId actionId owner generation leaseSeconds now
    return renewed.toList
  | recoverExpired tenantId now limit => AgentStore.recoverExpiredAgentActions tenantId now limit
  | commit tenantId actionId request => do
    let committed ← AgentStore.commitAgentActionObservation jsonable tenantId actionId request
    return [committed]

/-- The instants that the call computes are datetimes; both stores overflow on others. -/
def Timely : LeaseCall J → Prop
  | claim _ _ _ leaseSeconds now | renew _ _ _ _ leaseSeconds now =>
    ∀ t, now.toUtc? = some t → Representable t ∧ Representable (t + seconds leaseSeconds)
  | recoverExpired _ now _ => ∀ t, now.toUtc? = some t → Representable t
  | commit _ _ request => ∀ t, request.now.toUtc? = some t → Representable t

end LeaseCall

theorem toList_related {α β : Type} {R : α → β → Prop} {a : Option α} {b : Option β}
    (related : Option.Rel R a b) : List.Forall₂ R a.toList b.toList := by
  cases related with
  | some one => exact .cons one .nil
  | none => exact .nil

theorem lease_calls_agree (jsonable : J → Bool) :
    (∀ t t', Representable t → Representable t' → (isoformat t < isoformat t' ↔ t < t')) ∧
    ∀ (db : AgentDatabase J) (s : AgentStore J) (call : LeaseCall J), db.Mirrors s → call.Timely →
      Agree AgentDatabase.Mirrors (List.Forall₂ ActionRow.Holds) (call.sql jsonable db)
        (call.memory jsonable s) := by
  refine ⟨fun t t' ht ht' => isoformat_lt ht ht', fun db s call mirrors timely => ?_⟩
  cases call with
  | claim tenantId actionId owner leaseSeconds now =>
    have claims := AgentDatabase.claim_agree mirrors tenantId actionId owner fun t read => (timely t read).2
    exact claims.bind fun _ _ _ _ _ _ same states => agree_pure states (toList_related same)
  | renew tenantId actionId owner generation leaseSeconds now =>
    have renews := AgentDatabase.renew_agree mirrors tenantId actionId owner generation timely
    exact renews.bind fun _ _ _ _ _ _ same states => agree_pure states (toList_related same)
  | recoverExpired tenantId now limit => exact AgentDatabase.recover_agree mirrors timely
  | commit tenantId actionId request =>
    have commits := AgentDatabase.commit_agree jsonable mirrors tenantId actionId timely
    exact commits.bind fun _ _ _ _ _ _ same states => agree_pure states (.cons same .nil)

end Calls

end Taroai.Store
