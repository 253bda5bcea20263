import Taroai.Store.ActionFence

/-! The one retry of a connector action after its reconnection. The count of retries is an item of
the usage of the action, and a commit replaces the usage. So the count stands, and with it the
bound of one retry, exactly while every commit that takes effect brings the count along. -/

namespace Taroai.Store

open AgentStore Raising

variable {J : Type}

/-- The usage that `_execute_durable_action` commits. -/
def executionUsage (elapsedMs : Int) (toolName : String) : Dict J :=
  [("elapsed_ms", .int elapsedMs), ("tool_name", .text toolName)]

theorem executionUsage_reconnectRetries (elapsedMs : Int) (toolName : String) :
    (executionUsage elapsedMs toolName : Dict J).reconnectRetries = 0 := rfl

namespace AgentStore

section Operations

variable {jsonable : J → Bool} {s t : AgentStore J} {tenantId actionId : String}

structure Accepted (jsonable : J → Bool) (s : AgentStore J) (tenantId actionId : String)
    (request : CommitRequest J) (action : AgentAction J) : Prop where
  stored : s.actions.get? actionId = some action
  tenant : action.tenantId = tenantId
  serialisable : request.observation.output.all (Value.jsonable jsonable) = true ∧
    request.usage.all (Value.jsonable jsonable) = true ∧ jsonable request.statePayload = true
  observed : request.observation.actionId = action.id
  checksum : request.checksum ≠ ""
  held : ∃ now, request.now.toUtc? = some now ∧
    action.leasedTo request.leaseOwnerId request.leaseGeneration now = true

theorem getAgentAction_of_stored {action : AgentAction J}
    (stored : s.actions.get? actionId = some action) (tenant : action.tenantId = tenantId) :
    getAgentAction tenantId actionId s = (.ok action, s) := by
  unfold getAgentAction
  rw [read_bind, stored]
  change (ensure _ _ >>= _) s = _
  rw [ensure_bind, if_pos tenant]
  rfl

theorem leaseTime_of_known {value : DateTime} {time : Time} (known : value.toUtc? = some time) :
    leaseTime value s = (.ok time, s) := by
  unfold leaseTime
  rw [known]
  rfl

theorem commit_of_accepted {request : CommitRequest J} {action : AgentAction J}
    (accepted : Accepted jsonable s tenantId actionId request action) :
    ∃ now, (commitAgentActionObservation jsonable tenantId actionId request s).2.actions =
      s.actions.put (action.committed request.observation request.usage now) := by
  obtain ⟨now, time, leased⟩ := accepted.held
  refine ⟨now, ?_⟩
  unfold commitAgentActionObservation
  rw [ensure_bind, if_pos accepted.serialisable,
    bind_of_ok (getAgentAction_of_stored accepted.stored accepted.tenant),
    ensure_bind, if_pos accepted.observed, bind_of_ok (leaseTime_of_known time), ensure_bind,
    if_pos leased, dif_pos accepted.checksum]
  rfl

theorem commit_cases (jsonable : J → Bool) (s : AgentStore J) (tenantId actionId : String)
    (request : CommitRequest J) :
    (commitAgentActionObservation jsonable tenantId actionId request s).2.actions = s.actions ∨
      ∃ action, Accepted jsonable s tenantId actionId request action := by
  rcases ran : commitAgentActionObservation jsonable tenantId actionId request s with ⟨result, t⟩
  unfold commitAgentActionObservation at ran
  rcases (readOnly_ensure _ _).bind_cases ran with ⟨rfl, -⟩ | ⟨_, serialisable, ran⟩
  · exact Or.inl rfl
  rcases (getAgentAction_readOnly _ _).bind_cases ran with ⟨rfl, -⟩ | ⟨action, got, ran⟩
  · exact Or.inl rfl
  rcases (readOnly_ensure _ _).bind_cases ran with ⟨rfl, -⟩ | ⟨_, observed, ran⟩
  · exact Or.inl rfl
  rcases (leaseTime_readOnly _).bind_cases ran with ⟨rfl, -⟩ | ⟨committedAt, time, ran⟩
  · exact Or.inl rfl
  rcases (readOnly_ensure _ _).bind_cases ran with ⟨rfl, -⟩ | ⟨_, fence, ran⟩
  · exact Or.inl rfl
  by_cases nonempty : request.checksum ≠ ""
  · refine Or.inr ⟨action, (getAgentAction_ok got).1, (getAgentAction_ok got).2.2,
      (ensure_eq_ok.mp serialisable).1, (ensure_eq_ok.mp observed).1, nonempty, committedAt,
      leaseTime_ok time, (ensure_eq_ok.mp fence).1⟩
  · rw [dif_neg nonempty] at ran
    cases ran
    exact Or.inl rfl

theorem pause_of_used {connectorId eventId : String}
    (used : ∀ action, s.actions.get? actionId = some action → 0 < action.reconnectRetries) :
    (pauseConnectorActionForReconnect tenantId actionId connectorId eventId s).2 = s := by
  rcases ran : pauseConnectorActionForReconnect tenantId actionId connectorId eventId s
    with ⟨result, t⟩
  unfold pauseConnectorActionForReconnect at ran
  rcases (getAgentAction_readOnly _ _).bind_cases ran with ⟨rfl, -⟩ | ⟨action, got, ran⟩
  · rfl
  rcases (reconnectRetryCount_readOnly _).bind_cases ran with ⟨rfl, -⟩ | ⟨count, counted, ran⟩
  · rfl
  rcases (readOnly_ensure _ _).bind_cases ran with ⟨rfl, -⟩ | ⟨_, ensured, ran⟩
  · rfl
  · obtain ⟨⟨-, -, unused⟩, -⟩ := ensure_eq_ok.mp ensured
    have positive := used action (getAgentAction_ok got).1
    rw [reconnectRetryCount_ok counted] at positive
    omega

theorem retry_ok {connectorId user eventId : String} {after : AgentAction J}
    (ran : retryConnectorActionAfterReconnect tenantId actionId connectorId user eventId s =
      (.ok after, t)) :
    ∃ action, s.actions.get? actionId = some action ∧ action.reconnectRetries = 0 ∧
      t.actions = s.actions.put (reconnected action) := by
  unfold retryConnectorActionAfterReconnect at ran
  obtain ⟨action, got, ran⟩ := (getAgentAction_readOnly _ _).bind_ok ran
  obtain ⟨count, counted, ran⟩ := (reconnectRetryCount_readOnly _).bind_ok ran
  obtain ⟨_, ensured, ran⟩ := (readOnly_ensure _ _).bind_ok ran
  obtain ⟨⟨-, -, -, unused⟩, -⟩ := ensure_eq_ok.mp ensured
  refine ⟨action, (getAgentAction_ok got).1, (reconnectRetryCount_ok counted).trans unused, ?_⟩
  rw [putAction, update_bind] at ran
  obtain ⟨run, -, ran⟩ := (getRun_readOnly _ _).bind_ok ran
  rw [appendRunEvent, update_bind] at ran
  cases ran
  rfl

theorem reconnected_reconnectRetries (action : AgentAction J) :
    (reconnected action).reconnectRetries = 1 := by
  simp only [AgentAction.reconnectRetries, Dict.reconnectRetries, reconnected, Dict.get_set,
    Option.bind_some, Value.toInt, Option.getD_some]

end Operations

end AgentStore

structure Reconnects (J : Type) where
  store : AgentStore J
  retried : List String

namespace Reconnects

variable (jsonable : J → Bool)

def start (runs : Table Run.id) (cycles : Table AgentCycle.id) : Reconnects J :=
  ⟨⟨runs, cycles, Table.empty, [], []⟩, []⟩

def retriedBy (call : Call J) (result : Except StoreError (Option (AgentAction J))) : List String :=
  match call, result with
  | .retry _ actionId _ _ _, .ok _ => [actionId]
  | _, _ => []

def step (s : Reconnects J) (call : Call J) : Option (Reconnects J) :=
  let (result, store) := Ledger.exec jsonable call s.store
  some ⟨store, retriedBy call result ++ s.retried⟩

/-- An action is retried once, is not paused after that, and its recorded count stays. -/
structure Once (s : Reconnects J) (call : Call J) (s' : Reconnects J) : Prop where
  once : s'.retried.Nodup
  unpaused : ∀ tenantId actionId connectorId eventId,
    call = .pause tenantId actionId connectorId eventId → actionId ∈ s.retried → s'.store = s.store
  recorded : ∀ actionId action, s.store.actions.get? actionId = some action →
    ∃ after, s'.store.actions.get? actionId = some after ∧
      action.reconnectRetries ≤ after.reconnectRetries

def Carries (s : Reconnects J) (call : Call J) : Prop :=
  ∀ tenantId actionId request action, call = .commit tenantId actionId request →
    Accepted jsonable s.store tenantId actionId request action →
    action.reconnectRetries ≤ request.usage.reconnectRetries

theorem carries_execution_iff {s : Reconnects J} {tenantId actionId : String}
    {request : CommitRequest J} {elapsedMs : Int} {toolName : String}
    (usage : request.usage = executionUsage elapsedMs toolName) :
    Carries jsonable s (.commit tenantId actionId request) ↔
      ∀ action, Accepted jsonable s.store tenantId actionId request action →
        action.reconnectRetries ≤ 0 := by
  rw [← executionUsage_reconnectRetries (J := J) elapsedMs toolName, ← usage]
  constructor
  · exact fun carries action => carries tenantId actionId request action rfl
  · rintro none _ _ _ action ⟨⟩
    exact none action

structure Recorded (s : Reconnects J) : Prop where
  once : s.retried.Nodup
  recorded : ∀ actionId ∈ s.retried, ∃ action, s.store.actions.get? actionId = some action ∧
    0 < action.reconnectRetries

def Grows (s t : AgentStore J) : Prop :=
  ∀ actionId action, s.actions.get? actionId = some action →
    ∃ after, t.actions.get? actionId = some after ∧
      action.reconnectRetries ≤ after.reconnectRetries

theorem Grows.refl (s : AgentStore J) : Grows s s :=
  fun _ action stored => ⟨action, stored, Int.le_refl _⟩

theorem Grows.put {s t : AgentStore J} {action after : AgentAction J}
    (stored : s.actions.get? action.id = some action)
    (grows : action.reconnectRetries ≤ after.reconnectRetries) (same : after.id = action.id)
    (actions : t.actions = s.actions.put after) : Grows s t := by
  intro actionId old present
  rw [actions, Table.get?_put]
  by_cases here : actionId = after.id
  · rw [here, same, stored] at present
    obtain rfl := Option.some.inj present
    exact ⟨after, if_pos here, grows⟩
  · exact ⟨old, by rw [if_neg here, present], Int.le_refl _⟩

theorem grows_tracks {E : AgentAction J → AgentAction J → Prop}
    (edits : ∀ action after, E action after → action.reconnectRetries ≤ after.reconnectRetries) :
    Tracks (Grows (J := J)) E where
  refl := Grows.refl
  trans := by
    intro s t u first next actionId action stored
    obtain ⟨middle, stored, le⟩ := first actionId action stored
    obtain ⟨after, stored, le'⟩ := next actionId middle stored
    exact ⟨after, stored, Int.le_trans le le'⟩
  same := fun _ _ actions _ action stored => ⟨action, by rw [actions, stored], Int.le_refl _⟩
  put := fun _ _ action after stored edit => .put stored (edits action after edit)

variable {jsonable} {s s' : Reconnects J}

theorem grows_of_edit {call : Call J} (other : ∀ tenantId actionId request,
      call ≠ .commit tenantId actionId request) {action after : AgentAction J}
    (edit : Ledger.Edit call action after) : action.reconnectRetries ≤ after.reconnectRetries := by
  cases edit with
  | commit => exact absurd rfl (other _ _ _)
  | retry unused =>
    rw [reconnected_reconnectRetries, unused]
    decide
  | claim | renew | cancel | recover | reopen | resolve | pause => exact Int.le_refl _

theorem exec_grows {call : Call J} (carries : Carries jsonable s call) :
    Grows s.store (Ledger.exec jsonable call s.store).2 := by
  by_cases commit : ∃ tenantId actionId request, call = .commit tenantId actionId request
  · obtain ⟨tenantId, actionId, request, rfl⟩ := commit
    rw [Ledger.exec, bind_pure_state]
    rcases commit_cases jsonable s.store tenantId actionId request with same | ⟨action, accepted⟩
    · exact fun _ action stored => ⟨action, by rw [same, stored], Int.le_refl _⟩
    · obtain ⟨now, actions⟩ := commit_of_accepted accepted
      have key : action.id = actionId := Table.key_of_get? accepted.stored
      have stored : s.store.actions.get? action.id = some action := by rw [key, accepted.stored]
      have carried : action.reconnectRetries ≤
          (action.committed request.observation request.usage now).reconnectRetries :=
        carries _ _ _ action rfl accepted
      exact .put stored carried rfl actions
  · refine Ledger.exec_respects jsonable call (grows_tracks fun action after edit => ?_) ?_ s.store
    · exact grows_of_edit (fun _ _ _ same => commit ⟨_, _, _, same⟩) edit
    · intro s t action _ absent put actionId old present
      have other : actionId ≠ action.id := by
        rintro rfl
        rw [absent] at present
        cases present
      exact ⟨old, by rw [put, Table.get?_put_ne _ _ other, present], Int.le_refl _⟩

theorem step_eq {call : Call J} (moved : step jsonable s call = some s') :
    s' = ⟨(Ledger.exec jsonable call s.store).2,
      retriedBy call (Ledger.exec jsonable call s.store).1 ++ s.retried⟩ :=
  (Option.some.inj moved).symm

theorem retriedBy_cases (jsonable : J → Bool) (call : Call J) (s : AgentStore J) :
    retriedBy call (Ledger.exec jsonable call s).1 = [] ∨
      ∃ actionId, retriedBy call (Ledger.exec jsonable call s).1 = [actionId] ∧
        (∃ action, s.actions.get? actionId = some action ∧ action.reconnectRetries = 0) ∧
        ∃ after, (Ledger.exec jsonable call s).2.actions.get? actionId = some after ∧
          0 < after.reconnectRetries := by
  cases call with
  | retry tenantId actionId connectorId user eventId =>
    simp only [Ledger.exec]
    rcases ran : retryConnectorActionAfterReconnect tenantId actionId connectorId user eventId s
      with ⟨e | after, t⟩
    · rw [bind_of_error ran]
      exact Or.inl rfl
    · rw [bind_of_ok ran]
      obtain ⟨action, stored, unused, actions⟩ := retry_ok ran
      have key : action.id = actionId := Table.key_of_get? stored
      refine Or.inr ⟨actionId, rfl, ⟨action, stored, unused⟩, reconnected action, ?_, ?_⟩
      · change t.actions.get? actionId = _
        rw [actions, ← key]
        exact Table.get?_put_self ..
      · rw [reconnected_reconnectRetries]
        decide
  | create | claim | renew | cancel | recover | commit | resolve | pause => exact Or.inl rfl

theorem recorded_step {call : Call J} (recorded : Recorded s) (carries : Carries jsonable s call)
    (moved : step jsonable s call = some s') : Recorded s' := by
  obtain rfl := step_eq moved
  have grows := exec_grows carries
  have kept (actionId : String) (member : actionId ∈ s.retried) :
      ∃ after, (Ledger.exec jsonable call s.store).2.actions.get? actionId = some after ∧
        0 < after.reconnectRetries := by
    obtain ⟨action, stored, positive⟩ := recorded.recorded actionId member
    obtain ⟨after, stored, le⟩ := grows actionId action stored
    exact ⟨after, stored, by omega⟩
  rcases retriedBy_cases jsonable call s.store with none | ⟨actionId, one, before, after⟩
  · rw [none]
    exact ⟨recorded.once, kept⟩
  · rw [one]
    refine ⟨?_, fun other member => ?_⟩
    · rw [List.singleton_append, List.nodup_cons]
      refine ⟨fun member => ?_, recorded.once⟩
      obtain ⟨action, stored, unused⟩ := before
      obtain ⟨action', stored', positive⟩ := recorded.recorded actionId member
      obtain rfl := Option.some.inj (stored.symm.trans stored')
      omega
    · rcases List.mem_cons.mp member with rfl | earlier
      · exact after
      · exact kept other earlier

theorem once_step {call : Call J} (recorded : Recorded s) (carries : Carries jsonable s call)
    (moved : step jsonable s call = some s') : Once s call s' := by
  have after := recorded_step recorded carries moved
  obtain rfl := step_eq moved
  refine ⟨after.once, ?_, exec_grows carries⟩
  rintro tenantId actionId connectorId eventId rfl member
  obtain ⟨action, stored, positive⟩ := recorded.recorded actionId member
  change (Ledger.exec jsonable (.pause tenantId actionId connectorId eventId) s.store).2 = s.store
  rw [Ledger.exec, bind_pure_state]
  refine pause_of_used fun other stored' => ?_
  rw [← Option.some.inj (stored.symm.trans stored')]
  exact positive

theorem carries_of_once {call : Call J} (moved : step jsonable s call = some s')
    (once : Once s call s') : Carries jsonable s call := by
  rintro tenantId actionId request action rfl accepted
  obtain rfl := step_eq moved
  obtain ⟨now, actions⟩ := commit_of_accepted accepted
  obtain ⟨after, stored, le⟩ := once.recorded actionId action accepted.stored
  have key : action.id = actionId := Table.key_of_get? accepted.stored
  have kept : (Ledger.exec jsonable (.commit tenantId actionId request) s.store).2.actions.get?
      actionId = some (action.committed request.observation request.usage now) := by
    rw [Ledger.exec, bind_pure_state, actions, ← key]
    exact Table.get?_put_self ..
  obtain rfl := Option.some.inj (stored.symm.trans kept)
  exact le

/-- In a run the retries are bounded, and their count stands, exactly when every commit brings the
count along. -/
theorem once_run_iff (jsonable : J → Bool) (runs : Table Run.id) (cycles : Table AgentCycle.id)
    (calls : List (Call J)) :
    Machine.Along (step jsonable) Once (start runs cycles) calls ↔
      Machine.Conforms (step jsonable) (Carries jsonable) (start runs cycles) calls := by
  refine Machine.along_congr_of_invariant (I := Recorded) ?_ ?_ ⟨List.nodup_nil, ?_⟩
  · intro s call s' recorded moved
    exact ⟨carries_of_once moved, fun carries => once_step recorded carries moved⟩
  · intro s call s' recorded moved once
    exact recorded_step recorded (carries_of_once moved once) moved
  · intro actionId member
    cases member

section Run

def run : Run := ⟨"run_1", "tenant_1", "workspace_1", none⟩

def cycle : AgentCycle := ⟨"cycle_1", "tenant_1", "workspace_1", "run_1", none, 1, Nat.le_refl 1⟩

def expired : AgentObservation Unit where
  actionId := "action_1"
  success := false
  output := [("connector_id", .text "crm")]
  error := some "Connector authorization expired; reconnect to continue"
  safeError := some "Connector authorization expired; reconnect to continue"
  failureClass := some "connector_reconnect_required"
  createdAt := 0
  actionId_nonempty := by decide

/-- Claim the action, execute it, commit the failure and pause for the reconnection. -/
def attempt (generation : Nat) (now : Time) : List (Call Unit) :=
  [.claim "tenant_1" "action_1" "worker_1" 60 (.utc now),
    .commit "tenant_1" "action_1"
      { observation := expired
        leaseOwnerId := "worker_1"
        leaseGeneration := generation
        now := .utc (now + seconds 1)
        usage := executionUsage 1000 "crm.lookup"
        statePayload := ()
        checksum := "sha256"
        sandboxCheckpointRef := none
        checkpointId := "checkpoint_1" },
    .pause "tenant_1" "action_1" "crm" "event_1"]

def reconnect : Call Unit := .retry "tenant_1" "action_1" "crm" "user_1" "event_2"

def expiredTwice : List (Call Unit) :=
  .create "action_1" "tenant_1" "workspace_1" "run_1" "cycle_1" none "key_1" () (by decide) ::
    attempt 1 0 ++ reconnect :: attempt 2 (seconds 100)

/-- The commit of the second attempt drops the count, and the action is retried again. -/
theorem expiredTwice_retried_again : ¬ ∀ (runs : Table Run.id) (cycles : Table AgentCycle.id)
    (calls : List (Call Unit)),
    Machine.Along (step fun _ => true) Once (start runs cycles) calls := by
  intro once
  have last := Machine.Along.at_prefix expiredTwice
    (once ⟨[run], by decide⟩ ⟨[cycle], by decide⟩ (expiredTwice ++ [reconnect]))
    (Machine.run_final _ _ _ rfl) rfl
  exact absurd last.once (by decide)

end Run

end Reconnects

end Taroai.Store
