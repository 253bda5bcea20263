import Taroai.Lib.Machine
import Taroai.Store.ActionOps

/-! The lease fence of agent actions. Any number of workers and users call the operations of
the store in any order with any clock readings; the ledger also keeps the generation of each
commit that took effect. -/

namespace Taroai.Store

open AgentStore Raising

variable {J : Type}

/-- One call of the store by a worker, by the recovery loop or on behalf of a user. -/
inductive Call (J : Type) where
  | create (actionId tenantId workspaceId runId cycleId : String) (threadId : Option String)
    (actionKey : String) (decision : J) (nonempty : actionKey ≠ "")
  | claim (tenantId actionId leaseOwnerId : String) (leaseSeconds : Int) (now : DateTime)
  | renew (tenantId actionId leaseOwnerId : String) (leaseGeneration : Nat) (leaseSeconds : Int)
    (now : DateTime)
  | cancel (tenantId actionId : String) (now : DateTime)
  | recover (tenantId : String) (now : DateTime) (limit : Int)
  | commit (tenantId actionId : String) (request : CommitRequest J)
  | resolve (tenantId actionId resolution resolvedByUserId note eventId : String) (now : Time)
  | pause (tenantId actionId connectorId eventId : String)
  | retry (tenantId actionId connectorId resolvedByUserId eventId : String)

structure Ledger (J : Type) where
  store : AgentStore J
  commits : List (String × Nat)

namespace Ledger

def start (runs : Table Run.id) (cycles : Table AgentCycle.id) : Ledger J :=
  ⟨⟨runs, cycles, Table.empty, [], []⟩, []⟩

variable (jsonable : J → Bool)

def exec : Call J → Op J (Option (AgentAction J))
  | .create actionId tenantId workspaceId runId cycleId threadId actionKey decision nonempty => do
    return some (← createAgentAction
      { id := actionId, tenantId, workspaceId, runId, cycleId, threadId, actionKey, decision
        actionKey_nonempty := nonempty })
  | .claim tenantId actionId leaseOwnerId leaseSeconds now =>
    claimAgentAction tenantId actionId leaseOwnerId leaseSeconds now
  | .renew tenantId actionId leaseOwnerId leaseGeneration leaseSeconds now =>
    renewAgentActionLease tenantId actionId leaseOwnerId leaseGeneration leaseSeconds now
  | .cancel tenantId actionId now => do return some (← cancelAgentAction tenantId actionId now)
  | .recover tenantId now limit => do
    let _ ← recoverExpiredAgentActions tenantId now limit
    return none
  | .commit tenantId actionId request => do
    return some (← commitAgentActionObservation jsonable tenantId actionId request)
  | .resolve tenantId actionId resolution resolvedByUserId note eventId now => do
    return some (← resolveUncertainAgentAction tenantId actionId resolution resolvedByUserId note
      now eventId)
  | .pause tenantId actionId connectorId eventId => do
    return some (← pauseConnectorActionForReconnect tenantId actionId connectorId eventId)
  | .retry tenantId actionId connectorId resolvedByUserId eventId => do
    return some (← retryConnectorActionAfterReconnect tenantId actionId connectorId
      resolvedByUserId eventId)

def committed (call : Call J) (result : Except StoreError (Option (AgentAction J))) :
    List (String × Nat) :=
  match call, result with
  | .commit _ actionId request, .ok _ => [(actionId, request.leaseGeneration)]
  | _, _ => []

def step (l : Ledger J) (call : Call J) : Option (Ledger J) :=
  let (result, store) := exec jsonable call l.store
  some ⟨store, committed call result ++ l.commits⟩

structure Fenced (l : Ledger J) (call : Call J) (l' : Ledger J) : Prop where
  commitHeld : ∀ tenantId actionId request after, call = .commit tenantId actionId request →
    (exec jsonable call l.store).1 = .ok after →
    ∃ action now expiry, l.store.actions.get? actionId = some action ∧
      request.now.toUtc? = some now ∧ action.status = .running ∧
      action.leaseOwnerId = some request.leaseOwnerId ∧
      action.leaseGeneration = request.leaseGeneration ∧
      action.leaseExpiresAt = some expiry ∧ now < expiry
  commitRejected : ∀ tenantId actionId request e, call = .commit tenantId actionId request →
    (exec jsonable call l.store).1 = .error e → l' = l
  renewRejected : ∀ tenantId actionId owner generation leaseSeconds now,
    call = .renew tenantId actionId owner generation leaseSeconds now →
    (∀ after, (exec jsonable call l.store).1 ≠ .ok (some after)) → l' = l
  claimIncreases : ∀ tenantId actionId owner leaseSeconds now after,
    call = .claim tenantId actionId owner leaseSeconds now →
    (exec jsonable call l.store).1 = .ok (some after) →
    ∃ action, l.store.actions.get? actionId = some action ∧
      l'.store.actions.get? actionId = some after ∧
      action.leaseGeneration < after.leaseGeneration
  generations : ∀ actionId action, l.store.actions.get? actionId = some action →
    ∃ after, l'.store.actions.get? actionId = some after ∧
      action.leaseGeneration ≤ after.leaseGeneration

structure Sound (l : Ledger J) : Prop where
  leases : ∀ actionId action, l.store.actions.get? actionId = some action → action.LeaseSound
  once : l.commits.Nodup

structure Invariant (l : Ledger J) : Prop extends Sound l where
  spent : ∀ entry ∈ l.commits, ∃ action, l.store.actions.get? entry.1 = some action ∧
    action.Spent entry.2

inductive Edit : Call J → AgentAction J → AgentAction J → Prop
  | claim {tenantId actionId owner : String} {leaseSeconds : Int} {now : DateTime}
    {action : AgentAction J} {expiry claimedAt : Time} (pending : action.status = .pending) :
    Edit (.claim tenantId actionId owner leaseSeconds now) action
      (action.claimed owner expiry claimedAt)
  | renew {tenantId actionId owner : String} {generation : Nat} {leaseSeconds : Int}
    {now : DateTime} {action : AgentAction J} {expiry : Time} (running : action.status = .running)
    (owned : action.leaseOwnerId = some owner) :
    Edit (.renew tenantId actionId owner generation leaseSeconds now) action (action.renewed expiry)
  | cancel {tenantId actionId : String} {now : DateTime} {action : AgentAction J}
    {completedAt : Time} : Edit (.cancel tenantId actionId now) action (action.cancelled completedAt)
  | recover {tenantId : String} {now : DateTime} {limit : Int} {action : AgentAction J} :
    Edit (.recover tenantId now limit) action action.uncertain
  | commit {tenantId actionId : String} {request : CommitRequest J} {action : AgentAction J}
    {committedAt : Time} : Edit (.commit tenantId actionId request) action
      (action.committed request.observation request.usage committedAt)
  | reopen {tenantId actionId resolution user note eventId : String} {now : Time}
    {action : AgentAction J} :
    Edit (.resolve tenantId actionId resolution user note eventId now) action action.reopened
  | resolve {tenantId actionId resolution user note eventId : String} {now : Time}
    {action : AgentAction J} {observation : AgentObservation J} :
    Edit (.resolve tenantId actionId resolution user note eventId now) action
      (action.resolved observation now)
  | pause {tenantId actionId connectorId eventId : String} {action : AgentAction J}
    (failed : action.status = .failed) (unused : action.reconnectRetries ≤ 0) :
    Edit (.pause tenantId actionId connectorId eventId) action { action with status := .uncertain }
  | retry {tenantId actionId connectorId user eventId : String} {action : AgentAction J}
    (unused : action.reconnectRetries = 0) :
    Edit (.retry tenantId actionId connectorId user eventId) action (reconnected action)

theorem exec_respects {R : AgentStore J → AgentStore J → Prop} (call : Call J)
    (tracks : Tracks R (Edit call))
    (create : ∀ (s t : AgentStore J) (action : AgentAction J), action.LeaseSound →
      s.actions.get? action.id = none → t.actions = s.actions.put action → R s t) :
    (exec jsonable call).Respects R := by
  have mapped : ∀ {α : Type} {m : Op J α} {f : α → Option (AgentAction J)},
      m.Respects R → (m >>= fun a => pure (f a)).Respects R :=
    fun first => first.bind tracks.trans fun _ => (readOnly_pure _).respects tracks.refl
  cases call with
  | create actionId tenantId workspaceId runId cycleId threadId actionKey decision nonempty =>
    refine mapped (createAgentAction_respects tracks fun s t absent put => ?_)
    exact create s t _ (by simp [AgentAction.LeaseSound]) absent put
  | claim tenantId actionId leaseOwnerId leaseSeconds now =>
    exact claimAgentAction_respects tracks fun _ _ _ => .claim
  | renew tenantId actionId leaseOwnerId leaseGeneration leaseSeconds now =>
    exact renewAgentActionLease_respects tracks fun _ _ => .renew
  | cancel tenantId actionId now =>
    exact mapped (cancelAgentAction_respects tracks fun _ _ => .cancel)
  | recover tenantId now limit =>
    exact mapped (recoverExpiredAgentActions_respects tracks fun _ => .recover)
  | commit tenantId actionId request =>
    exact mapped (commitAgentActionObservation_respects tracks jsonable fun _ _ => .commit)
  | resolve tenantId actionId resolution user note eventId now =>
    exact mapped (resolveUncertainAgentAction_respects tracks (fun _ => .reopen) fun _ _ => .resolve)
  | pause tenantId actionId connectorId eventId =>
    exact mapped (pauseConnectorActionForReconnect_respects tracks fun _ => .pause)
  | retry tenantId actionId connectorId user eventId =>
    exact mapped (retryConnectorActionAfterReconnect_respects tracks fun _ => .retry)

theorem Edit.change {call : Call J} {action after : AgentAction J}
    (edit : Edit call action after) : AgentAction.Change action after := by
  cases edit with
  | claim pending => exact .claim _ _ _ _ pending
  | renew running owned => exact .renew _ _ running (by rw [owned]; rfl)
  | cancel => exact .release _ _ (by simp [AgentAction.cancelled]) rfl rfl rfl
  | recover => exact .release _ _ (by simp [AgentAction.uncertain]) rfl rfl rfl
  | commit =>
    refine .release _ _ ?_ rfl rfl rfl
    simp only [AgentAction.committed]
    split <;> simp
  | reopen => exact .release _ _ (by simp [AgentAction.reopened]) rfl rfl rfl
  | resolve =>
    refine .release _ _ ?_ rfl rfl rfl
    simp only [AgentAction.resolved]
    split <;> simp
  | pause failed unused => exact .pause _ failed
  | retry unused => exact .release _ _ (by simp [reconnected, AgentAction.reopened]) rfl rfl rfl

theorem exec_evolves (call : Call J) : (exec jsonable call).Respects AgentStore.Evolves :=
  exec_respects jsonable call (evolves_tracks fun _ _ => Edit.change) fun _ _ _ sound absent =>
    .create absent sound

variable {jsonable}

theorem step_eq {l l' : Ledger J} {call : Call J} (moved : step jsonable l call = some l') :
    l' = ⟨(exec jsonable call l.store).2,
      committed call (exec jsonable call l.store).1 ++ l.commits⟩ :=
  (Option.some.inj moved).symm

private theorem exec_commit_ok {tenantId actionId : String} {request : CommitRequest J}
    {s : AgentStore J} {after : Option (AgentAction J)}
    (returned : (exec jsonable (.commit tenantId actionId request) s).1 = .ok after) :
    ∃ action committedAt, s.actions.get? actionId = some action ∧ action.id = actionId ∧
      request.now.toUtc? = some committedAt ∧
      action.leasedTo request.leaseOwnerId request.leaseGeneration committedAt = true ∧
      (exec jsonable (.commit tenantId actionId request) s).2.actions = s.actions.put
        (action.committed request.observation request.usage committedAt) := by
  simp only [exec] at returned ⊢
  rcases ran : commitAgentActionObservation jsonable tenantId actionId request s with ⟨e | a, t⟩
  · rw [bind_of_error ran] at returned
    cases returned
  · rw [bind_of_ok ran]
    rcases commitAgentActionObservation_cases jsonable ran with ⟨-, e, failed⟩ | held
    · cases failed
    · obtain ⟨action, committedAt, stored, key, time, leased, actions, -⟩ := held
      exact ⟨action, committedAt, stored, key, time, leased, actions⟩

private theorem exec_commit_error {tenantId actionId : String} {request : CommitRequest J}
    {s : AgentStore J} {e : StoreError}
    (raised : (exec jsonable (.commit tenantId actionId request) s).1 = .error e) :
    (exec jsonable (.commit tenantId actionId request) s).2 = s := by
  simp only [exec] at raised ⊢
  rcases ran : commitAgentActionObservation jsonable tenantId actionId request s with ⟨e | a, t⟩
  · rw [bind_of_error ran]
    rcases commitAgentActionObservation_cases jsonable ran with
      ⟨rfl, -⟩ | ⟨action, committedAt, -, -, -, -, -, returned⟩
    · rfl
    · cases returned
  · rw [bind_of_ok ran] at raised
    cases raised

private theorem commit_spends {tenantId actionId : String} {request : CommitRequest J}
    {s : AgentStore J} {after : Option (AgentAction J)}
    (returned : (exec jsonable (.commit tenantId actionId request) s).1 = .ok after) :
    (∃ action, s.actions.get? actionId = some action ∧
      ¬ action.Spent request.leaseGeneration) ∧
    ∃ action, (exec jsonable (.commit tenantId actionId request) s).2.actions.get? actionId =
      some action ∧ action.Spent request.leaseGeneration := by
  obtain ⟨action, committedAt, stored, key, -, leased, actions⟩ := exec_commit_ok returned
  obtain ⟨running, -, generation, -⟩ := AgentAction.leasedTo_iff.mp leased
  constructor
  · exact ⟨action, stored, fun spent => spent.2 generation.symm running⟩
  · refine ⟨action.committed request.observation request.usage committedAt, ?_, ?_⟩
    · rw [actions, ← key]
      exact Table.get?_put_self ..
    · refine ⟨Nat.le_of_eq generation.symm, fun _ => ?_⟩
      simp only [AgentAction.committed]
      split <;> simp

theorem step_invariant {l l' : Ledger J} {call : Call J} (inv : l.Invariant)
    (moved : step jsonable l call = some l') : l'.Invariant := by
  have evolved : l.store.Evolves (exec jsonable call l.store).2 := exec_evolves jsonable call _
  obtain rfl := step_eq moved
  have spentBefore : ∀ entry ∈ l.commits,
      ∃ action, (exec jsonable call l.store).2.actions.get? entry.1 = some action ∧
        action.Spent entry.2 := by
    intro entry member
    obtain ⟨action, stored, spent⟩ := inv.spent entry member
    obtain ⟨after, stored', changes⟩ := evolved.kept _ _ stored
    exact ⟨after, stored', changes.spent spent⟩
  have leases : ∀ actionId action,
      (exec jsonable call l.store).2.actions.get? actionId = some action →
        action.LeaseSound := by
    intro actionId action stored
    cases before : l.store.actions.get? actionId with
    | none =>
      obtain ⟨first, sound, changes⟩ := evolved.fresh actionId action before stored
      exact changes.leaseSound sound
    | some old =>
      obtain ⟨after, stored', changes⟩ := evolved.kept actionId old before
      obtain rfl := Option.some.inj (stored.symm.trans stored')
      exact changes.leaseSound (inv.leases actionId old before)
  by_cases returned : ∃ tenantId actionId request after, call = .commit tenantId actionId request ∧
      (exec jsonable call l.store).1 = .ok after
  · obtain ⟨tenantId, actionId, request, after, rfl, returned⟩ := returned
    obtain ⟨⟨action, stored, unspent⟩, spent⟩ := commit_spends returned
    have added : committed (.commit tenantId actionId request)
        (exec jsonable (.commit tenantId actionId request) l.store).1 =
          [(actionId, request.leaseGeneration)] := by rw [returned]; rfl
    refine ⟨⟨leases, ?_⟩, ?_⟩
    · rw [added, List.singleton_append, List.nodup_cons]
      refine ⟨fun member => ?_, inv.once⟩
      obtain ⟨action', stored', spent'⟩ := inv.spent _ member
      obtain rfl := Option.some.inj (stored.symm.trans stored')
      exact unspent spent'
    · rw [added, List.singleton_append]
      intro entry member
      rcases List.mem_cons.mp member with rfl | earlier
      · exact spent
      · exact spentBefore entry earlier
  · have added : committed call (exec jsonable call l.store).1 = [] := by
      unfold committed
      split
      · next result => exact absurd ⟨_, _, _, _, rfl, result⟩ returned
      · rfl
    rw [added]
    exact ⟨⟨leases, inv.once⟩, spentBefore⟩

theorem step_fenced {l l' : Ledger J} {call : Call J}
    (moved : step jsonable l call = some l') : Fenced jsonable l call l' := by
  have evolved : l.store.Evolves (exec jsonable call l.store).2 := exec_evolves jsonable call _
  obtain rfl := step_eq moved
  refine ⟨?_, ?_, ?_, ?_, ?_⟩
  · rintro tenantId actionId request after rfl returned
    obtain ⟨action, now, stored, -, time, leased, -⟩ := exec_commit_ok returned
    obtain ⟨running, owner, generation, expiry, lease, later⟩ :=
      AgentAction.leasedTo_iff.mp leased
    exact ⟨action, now, expiry, stored, time, running, owner, generation, lease, later⟩
  · rintro tenantId actionId request e rfl raised
    rw [exec_commit_error raised, raised]
    rfl
  · rintro tenantId actionId owner generation leaseSeconds now rfl rejected
    have same : (exec jsonable (.renew tenantId actionId owner generation leaseSeconds now)
        l.store).2 = l.store :=
      renewAgentActionLease_rejected rfl rejected
    rw [same]
    rfl
  · rintro tenantId actionId owner leaseSeconds now after rfl returned
    obtain ⟨action, stored, stored', generation⟩ :=
      claimAgentAction_ok (Prod.ext returned rfl : claimAgentAction tenantId actionId owner
        leaseSeconds now l.store = (.ok (some after), _))
    exact ⟨action, stored, stored', by omega⟩
  · intro actionId action stored
    obtain ⟨after, stored', changes⟩ := evolved.kept actionId action stored
    exact ⟨after, stored', changes.generation_le⟩

theorem start_invariant (runs : Table Run.id) (cycles : Table AgentCycle.id) :
    (start runs cycles : Ledger J).Invariant where
  leases := fun _ _ stored => by cases stored
  once := List.nodup_nil
  spent := fun _ member => by cases member

/-- Every call of every run obeys the fence and leaves a sound ledger. -/
theorem lease_fencing (jsonable : J → Bool) (runs : Table Run.id) (cycles : Table AgentCycle.id)
    (schedule : List (Call J)) :
    Machine.Along (step jsonable) (fun l call l' => Fenced jsonable l call l' ∧ l'.Sound)
      (start runs cycles) schedule := by
  refine Machine.Along.of_invariant (I := Invariant) (P := fun _ _ _ => True) ?_
    (start_invariant runs cycles) ?_
  · intro l call l' inv _ moved
    have kept := step_invariant inv moved
    exact ⟨kept, step_fenced moved, kept.toSound⟩
  · exact Machine.along_true ..

end Ledger

end Taroai.Store
