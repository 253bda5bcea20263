import Mathlib.Logic.Relation
import Taroai.Store.AgentStore

/-! What one write of the store can do to the lease of an action, said once, and what every
sequence of such changes keeps. A store evolves when its actions stay and only change. A relation
of stores tracks the edits of actions when every write that is such an edit respects it, and so
does every operation, also when it raises halfway. Commit, renewal and claim are inverted further:
what they check, and what they leave alone when a check fails. -/

namespace Taroai.Store

section Change

open Relation

variable {J : Type}

/-- The count of reconnect retries in a usage; zero where it is not there or is no number. -/
def Dict.reconnectRetries (usage : Dict J) : Int :=
  ((usage.get "connector_reconnect_retry_count").bind Value.toInt).getD 0

namespace AgentAction

def reconnectRetries (action : AgentAction J) : Int := action.usage.reconnectRetries

inductive Change : AgentAction J → AgentAction J → Prop
  | claim (action : AgentAction J) (owner : String) (expiry now : Time) :
    action.status = .pending → Change action (action.claimed owner expiry now)
  | renew (action : AgentAction J) (expiry : Time) :
    action.status = .running → action.leaseOwnerId.isSome → Change action (action.renewed expiry)
  | pause (action : AgentAction J) :
    action.status = .failed → Change action { action with status := .uncertain }
  | release (action after : AgentAction J) :
    after.status ≠ .running → after.leaseOwnerId = none → after.leaseExpiresAt = none →
    after.leaseGeneration = action.leaseGeneration → Change action after

abbrev Changes : AgentAction J → AgentAction J → Prop := ReflTransGen Change

def LeaseSound (action : AgentAction J) : Prop :=
  action.status = .running ↔ action.leaseOwnerId.isSome = true ∧ action.leaseExpiresAt.isSome = true

def Spent (generation : Nat) (action : AgentAction J) : Prop :=
  generation ≤ action.leaseGeneration ∧
    (generation = action.leaseGeneration → action.status ≠ .running)

theorem Change.leaseSound {action after : AgentAction J} (change : Change action after)
    (sound : action.LeaseSound) : after.LeaseSound := by
  unfold LeaseSound at sound ⊢
  cases change with
  | claim owner expiry now pending => simp [claimed]
  | renew expiry running owned => simp [renewed, running, owned]
  | pause failed =>
    rw [failed] at sound
    simpa using sound
  | release _ stopped owner expiry generation => simp [stopped, owner]

theorem Change.generation_le {action after : AgentAction J} (change : Change action after) :
    action.leaseGeneration ≤ after.leaseGeneration := by
  cases change with
  | claim owner expiry now pending => exact Nat.le_succ _
  | renew expiry running owned => exact Nat.le_refl _
  | pause failed => exact Nat.le_refl _
  | release _ stopped owner expiry generation => exact Nat.le_of_eq generation.symm

theorem Change.spent {action after : AgentAction J} (change : Change action after)
    {generation : Nat} (spent : Spent generation action) : Spent generation after := by
  obtain ⟨bound, stopped⟩ := spent
  cases change with
  | claim owner expiry now pending =>
    refine ⟨Nat.le_succ_of_le bound, fun same => ?_⟩
    have : action.leaseGeneration + 1 = generation := same.symm
    omega
  | renew expiry running owned => exact ⟨bound, stopped⟩
  | pause failed => exact ⟨bound, fun _ => by simp⟩
  | release _ halted owner expiry same => exact ⟨same ▸ bound, fun _ => halted⟩

theorem Changes.leaseSound {action after : AgentAction J} (changes : Changes action after)
    (sound : action.LeaseSound) : after.LeaseSound := by
  induction changes with
  | refl => exact sound
  | tail _ change ih => exact change.leaseSound ih

theorem Changes.generation_le {action after : AgentAction J} (changes : Changes action after) :
    action.leaseGeneration ≤ after.leaseGeneration := by
  induction changes with
  | refl => exact Nat.le_refl _
  | tail _ change ih => exact Nat.le_trans ih change.generation_le

theorem Changes.spent {action after : AgentAction J} (changes : Changes action after)
    {generation : Nat} (spent : Spent generation action) : Spent generation after := by
  induction changes with
  | refl => exact spent
  | tail _ change ih => exact change.spent ih

end AgentAction

open AgentAction

namespace AgentStore

structure Evolves (s t : AgentStore J) : Prop where
  kept : ∀ id action, s.actions.get? id = some action →
    ∃ after, t.actions.get? id = some after ∧ Changes action after
  fresh : ∀ id action, s.actions.get? id = none → t.actions.get? id = some action →
    ∃ first : AgentAction J, first.LeaseSound ∧ Changes first action

theorem Evolves.refl (s : AgentStore J) : Evolves s s where
  kept := fun _ action stored => ⟨action, stored, .refl⟩
  fresh := fun _ _ absent stored => by rw [absent] at stored; cases stored

theorem Evolves.trans (s t u : AgentStore J) (first : Evolves s t) (second : Evolves t u) :
    Evolves s u where
  kept := by
    intro id action stored
    obtain ⟨middle, stored', changes⟩ := first.kept id action stored
    obtain ⟨after, stored'', changes'⟩ := second.kept id middle stored'
    exact ⟨after, stored'', changes.trans changes'⟩
  fresh := by
    intro id action absent stored
    cases here : t.actions.get? id with
    | none => exact second.fresh id action here stored
    | some middle =>
      obtain ⟨start, sound, changes⟩ := first.fresh id middle absent here
      obtain ⟨after, stored', changes'⟩ := second.kept id middle here
      obtain rfl := Option.some.inj (stored.symm.trans stored')
      exact ⟨start, sound, changes.trans changes'⟩

theorem Evolves.of_actions {s t : AgentStore J} (same : t.actions = s.actions) : Evolves s t where
  kept := fun _ action stored => ⟨action, by rw [same, stored], .refl⟩
  fresh := fun _ _ absent stored => by rw [same, absent] at stored; cases stored

theorem Evolves.put {s t : AgentStore J} {action after : AgentAction J}
    (stored : s.actions.get? action.id = some action) (change : Change action after)
    (same : after.id = action.id) (actions : t.actions = s.actions.put after) : Evolves s t where
  kept := by
    intro id old present
    rw [actions, Table.get?_put]
    by_cases here : id = after.id
    · rw [here, same, stored] at present
      obtain rfl := Option.some.inj present
      exact ⟨after, if_pos here, .single change⟩
    · exact ⟨old, by rw [if_neg here, present], .refl⟩
  fresh := by
    intro id new absent present
    rw [actions, Table.get?_put] at present
    split at present
    · next here =>
      rw [here, same, stored] at absent
      cases absent
    · rw [absent] at present
      cases present

theorem Evolves.create {s t : AgentStore J} {action : AgentAction J}
    (absent : s.actions.get? action.id = none) (sound : action.LeaseSound)
    (actions : t.actions = s.actions.put action) : Evolves s t where
  kept := by
    intro id old present
    have other : id ≠ action.id := by
      rintro rfl
      rw [absent] at present
      cases present
    exact ⟨old, by rw [actions, Table.get?_put_ne _ _ other, present], .refl⟩
  fresh := by
    intro id new absent' present
    rw [actions, Table.get?_put] at present
    split at present
    · obtain rfl := Option.some.inj present
      exact ⟨action, sound, .refl⟩
    · rw [absent'] at present
      cases present

/-- The relation holds of every write that replaces a stored action as `E` allows. -/
structure Tracks (R : AgentStore J → AgentStore J → Prop)
    (E : AgentAction J → AgentAction J → Prop) : Prop where
  refl : ∀ s, R s s
  trans : ∀ s t u, R s t → R t u → R s u
  same : ∀ s t, t.actions = s.actions → R s t
  put : ∀ s t (action after : AgentAction J), s.actions.get? action.id = some action →
    E action after → after.id = action.id → t.actions = s.actions.put after → R s t

theorem evolves_tracks {E : AgentAction J → AgentAction J → Prop}
    (changes : ∀ action after, E action after → Change action after) :
    Tracks (Evolves (J := J)) E where
  refl := Evolves.refl
  trans := Evolves.trans
  same := fun _ _ => .of_actions
  put := fun _ _ action after stored edit => .put stored (changes action after edit)

end AgentStore

end Change

open AgentAction Raising

namespace AgentStore

variable {J : Type}

theorem getAgentAction_readOnly (tenantId actionId : String) :
    (getAgentAction tenantId actionId : Op J (AgentAction J)).ReadOnly := by
  refine (readOnly_read _).bind fun found => ?_
  cases found with
  | none => exact readOnly_raise _
  | some action => exact (readOnly_ensure _ _).bind fun _ => readOnly_pure _

theorem getAgentAction_ok {tenantId actionId : String} {s t : AgentStore J}
    {action : AgentAction J} (ran : getAgentAction tenantId actionId s = (.ok action, t)) :
    s.actions.get? actionId = some action ∧ action.id = actionId ∧ action.tenantId = tenantId := by
  unfold getAgentAction at ran
  rw [read_bind] at ran
  cases present : s.actions.get? actionId with
  | none =>
    rw [present] at ran
    cases ran
  | some stored =>
    rw [present] at ran
    obtain ⟨_, _, checked, ran⟩ := bind_eq_ok.mp ran
    obtain ⟨tenant, rfl⟩ := ensure_eq_ok.mp checked
    cases ran
    exact ⟨rfl, Table.key_of_get? present, tenant⟩

theorem getRun_readOnly (tenantId runId : String) : (getRun tenantId runId : Op J Run).ReadOnly := by
  refine (readOnly_read _).bind fun found => ?_
  cases found with
  | none => exact readOnly_raise _
  | some run => exact (readOnly_ensure _ _).bind fun _ => readOnly_pure _

theorem getAgentCycle_readOnly (tenantId cycleId : String) :
    (getAgentCycle tenantId cycleId : Op J AgentCycle).ReadOnly := by
  refine (readOnly_read _).bind fun found => ?_
  cases found with
  | none => exact readOnly_raise _
  | some cycle => exact (readOnly_ensure _ _).bind fun _ => readOnly_pure _

theorem leaseTime_readOnly (value : DateTime) : (leaseTime value : Op J Time).ReadOnly := by
  unfold leaseTime
  split
  · exact readOnly_raise _
  · exact readOnly_pure _

theorem leaseExpiration_readOnly (now : Time) (leaseSeconds : Int) :
    (leaseExpiration now leaseSeconds : Op J Time).ReadOnly :=
  (readOnly_ensure _ _).bind fun _ => readOnly_pure _

theorem resolution_readOnly (action : AgentAction J) (decision resolvedByUserId note : String)
    (now : Time) : (resolution action decision resolvedByUserId note now).ReadOnly := by
  unfold resolution
  split
  · exact readOnly_pure _
  · split
    · exact readOnly_pure _
    · exact readOnly_raise _

theorem reconnectRetryCount_readOnly (action : AgentAction J) :
    (reconnectRetryCount action).ReadOnly := by
  unfold reconnectRetryCount
  split
  · exact readOnly_pure _
  · split
    · exact readOnly_pure _
    · exact readOnly_raise _

theorem reconnectRetryCount_ok {action : AgentAction J} {count : Int} {s t : AgentStore J}
    (ran : reconnectRetryCount action s = (.ok count, t)) : action.reconnectRetries = count := by
  unfold reconnectRetryCount at ran
  unfold AgentAction.reconnectRetries Dict.reconnectRetries
  cases recorded : action.usage.get "connector_reconnect_retry_count" with
  | none =>
    rw [recorded] at ran
    cases ran
    rfl
  | some value =>
    rw [recorded] at ran
    dsimp only at ran
    cases number : value.toInt with
    | none =>
      rw [number] at ran
      cases ran
    | some n =>
      rw [number] at ran
      cases ran
      simp [number]

theorem resolution_ok {action updated : AgentAction J} {decision user note : String} {now : Time}
    {s t : AgentStore J} (ran : resolution action decision user note now s = (.ok updated, t)) :
    updated = action.reopened ∨ ∃ observation, updated = action.resolved observation now := by
  unfold resolution at ran
  split at ran
  · cases ran
    exact Or.inl rfl
  · split at ran
    · cases ran
      exact Or.inr ⟨_, rfl⟩
    · cases ran

section Respects

variable {R : AgentStore J → AgentStore J → Prop} {E : AgentAction J → AgentAction J → Prop}

private theorem respects_put {α : Type} (tracks : Tracks R E) {s : AgentStore J}
    {action after : AgentAction J} {rest : Op J α}
    (stored : s.actions.get? action.id = some action) (edit : E action after)
    (same : after.id = action.id) (later : rest.Respects R) :
    R s ((putAction after >>= fun _ => rest) s).2 := by
  rw [putAction, update_bind]
  exact tracks.trans _ _ _ (tracks.put _ _ action after stored edit same rfl) (later _)

private theorem respects_event {α : Type} (tracks : Tracks R E)
    (tenantId runId eventId eventType : String) (payload : Dict J) (result : α) :
    ((getRun tenantId runId >>= fun run =>
      appendRunEvent run eventId eventType payload >>= fun _ => pure result) :
        Op J α).Respects R := by
  refine ((getRun_readOnly _ _).respects tracks.refl).bind tracks.trans fun run => ?_
  have appended : (appendRunEvent run eventId eventType payload : Op J Unit).Respects R :=
    fun _ => tracks.same _ _ rfl
  exact appended.bind tracks.trans fun _ => (readOnly_pure _).respects tracks.refl

theorem createAgentAction_respects (tracks : Tracks R E) {action : AgentAction J}
    (create : ∀ s t : AgentStore J, s.actions.get? action.id = none →
      t.actions = s.actions.put action → R s t) : (createAgentAction action).Respects R := by
  intro s
  unfold createAgentAction
  refine respects_bind tracks.refl (readOnly_ensure _ _) fun _ _ => ?_
  refine respects_bind tracks.refl (getAgentCycle_readOnly _ _) fun cycle _ => ?_
  refine respects_bind tracks.refl (readOnly_ensure _ _) fun _ _ => ?_
  refine respects_bind tracks.refl (readOnly_ensure _ _) fun _ _ => ?_
  rw [read_bind]
  refine respects_bind tracks.refl (readOnly_ensure _ _) fun _ ensured => ?_
  rw [read_bind]
  refine respects_bind tracks.refl (readOnly_ensure _ _) fun _ _ => ?_
  exact create _ _ (ensure_eq_ok.mp ensured).1 rfl

theorem claimAgentAction_respects (tracks : Tracks R E) {tenantId actionId owner : String}
    {leaseSeconds : Int} {now : DateTime}
    (edit : ∀ (action : AgentAction J) expiry claimedAt, action.status = .pending →
      E action (action.claimed owner expiry claimedAt)) :
    (claimAgentAction tenantId actionId owner leaseSeconds now).Respects R := by
  intro s
  unfold claimAgentAction
  refine respects_bind tracks.refl (leaseTime_readOnly _) fun claimedAt _ => ?_
  refine respects_bind tracks.refl (leaseExpiration_readOnly _ _) fun expiry _ => ?_
  refine respects_bind tracks.refl (readOnly_ensure _ _) fun _ _ => ?_
  rw [read_bind]
  cases stored : s.actions.get? actionId with
  | none => exact tracks.refl s
  | some action =>
    change R s ((if _ then _ else _ : Op J _) s).2
    split_ifs with free
    · have key : action.id = actionId := Table.key_of_get? stored
      exact tracks.put _ _ action _ (by rw [key, stored]) (edit action expiry claimedAt free.2) rfl rfl
    · exact tracks.refl s

theorem renewAgentActionLease_respects (tracks : Tracks R E) {tenantId actionId owner : String}
    {generation : Nat} {leaseSeconds : Int} {now : DateTime}
    (edit : ∀ (action : AgentAction J) expiry, action.status = .running →
      action.leaseOwnerId = some owner → E action (action.renewed expiry)) :
    (renewAgentActionLease tenantId actionId owner generation leaseSeconds now).Respects R := by
  intro s
  unfold renewAgentActionLease
  refine respects_bind tracks.refl (leaseTime_readOnly _) fun renewedAt _ => ?_
  refine respects_bind tracks.refl (leaseExpiration_readOnly _ _) fun expiry _ => ?_
  rw [read_bind]
  cases stored : s.actions.get? actionId with
  | none => exact tracks.refl s
  | some action =>
    change R s ((if _ then _ else _ : Op J _) s).2
    split_ifs with held
    · have key : action.id = actionId := Table.key_of_get? stored
      obtain ⟨running, owned, -⟩ := leasedTo_iff.mp held.2
      exact tracks.put _ _ action _ (by rw [key, stored]) (edit action expiry running owned) rfl rfl
    · exact tracks.refl s

theorem cancelAgentAction_respects (tracks : Tracks R E) {tenantId actionId : String}
    {now : DateTime}
    (edit : ∀ (action : AgentAction J) completedAt, E action (action.cancelled completedAt)) :
    (cancelAgentAction tenantId actionId now).Respects R := by
  intro s
  unfold cancelAgentAction
  refine respects_bind tracks.refl (getAgentAction_readOnly _ _) fun action got => ?_
  obtain ⟨stored, key, -⟩ := getAgentAction_ok got
  split_ifs
  · refine respects_bind tracks.refl (leaseTime_readOnly _) fun completedAt _ => ?_
    exact tracks.put _ _ action _ (by rw [key, stored]) (edit action completedAt) rfl rfl
  · exact tracks.refl s

private theorem respects_recover (tracks : Tracks R E) {candidates : List (AgentAction J)}
    {s : AgentStore J} (edit : ∀ action : AgentAction J, E action action.uncertain)
    (distinct : (candidates.map AgentAction.id).Nodup)
    (stored : ∀ action ∈ candidates, s.actions.get? action.id = some action) :
    R s ((each candidates fun action => putAction action.uncertain) s).2 := by
  induction candidates generalizing s with
  | nil => exact tracks.refl s
  | cons action rest ih =>
    rw [List.map_cons, List.nodup_cons] at distinct
    have first : R s (putAction action.uncertain s).2 :=
      tracks.put _ _ action _ (stored action List.mem_cons_self) (edit action) rfl rfl
    refine tracks.trans _ _ _ first (ih distinct.2 fun other member => ?_)
    have differs : other.id ≠ action.uncertain.id := fun same =>
      distinct.1 (same ▸ List.mem_map_of_mem member)
    change (s.actions.put action.uncertain).get? other.id = some other
    rw [Table.get?_put_ne _ _ differs]
    exact stored other (List.mem_cons_of_mem _ member)

theorem recoverExpiredAgentActions_respects (tracks : Tracks R E) {tenantId : String}
    {now : DateTime} {limit : Int} (edit : ∀ action : AgentAction J, E action action.uncertain) :
    (recoverExpiredAgentActions tenantId now limit).Respects R := by
  intro s
  unfold recoverExpiredAgentActions
  refine respects_bind tracks.refl (readOnly_ensure _ _) fun _ _ => ?_
  refine respects_bind tracks.refl (leaseTime_readOnly _) fun recoveredAt _ => ?_
  rw [read_bind]
  let lapsed := s.actions.entries.filter fun action => action.leaseLapsed tenantId recoveredAt
  let sorted := lapsed.insertionSort fun a b => a.id ≤ b.id
  let candidates := sorted.take limit.toNat
  have sameMembers : sorted.Perm lapsed := List.perm_insertionSort _ _
  have distinct : (candidates.map AgentAction.id).Nodup := by
    have all : (lapsed.map AgentAction.id).Nodup :=
      (List.filter_sublist.map AgentAction.id).nodup s.actions.nodup
    exact ((List.take_sublist _ _).map AgentAction.id).nodup
      ((sameMembers.map AgentAction.id).nodup_iff.mpr all)
  have stored : ∀ action ∈ candidates, s.actions.get? action.id = some action := by
    intro action member
    have lapsedMember : action ∈ lapsed := sameMembers.mem_iff.mp (List.mem_of_mem_take member)
    exact Table.get?_of_mem (List.mem_of_mem_filter lapsedMember)
  have loop := respects_recover tracks edit distinct stored
  rcases ran : each candidates (fun action => putAction action.uncertain) s with ⟨e | _, t⟩
  · rw [bind_of_error ran]
    rwa [ran] at loop
  · rw [bind_of_ok ran]
    rwa [ran] at loop

theorem resolveUncertainAgentAction_respects (tracks : Tracks R E)
    {tenantId actionId decision user note eventId : String} {now : Time}
    (reopen : ∀ action : AgentAction J, E action action.reopened)
    (resolve : ∀ (action : AgentAction J) observation,
      E action (action.resolved observation now)) :
    (resolveUncertainAgentAction tenantId actionId decision user note now eventId).Respects R := by
  intro s
  unfold resolveUncertainAgentAction
  refine respects_bind tracks.refl (readOnly_ensure _ _) fun _ _ => ?_
  refine respects_bind tracks.refl (getAgentAction_readOnly _ _) fun action got => ?_
  refine respects_bind tracks.refl (readOnly_ensure _ _) fun _ _ => ?_
  refine respects_bind tracks.refl (resolution_readOnly _ _ _ _ _) fun updated ran => ?_
  obtain ⟨stored, key, -⟩ := getAgentAction_ok got
  rcases resolution_ok ran with rfl | ⟨observation, rfl⟩
  · exact respects_put tracks (by rw [key, stored]) (reopen action) rfl
      (respects_event tracks _ _ _ _ _ _)
  · exact respects_put tracks (by rw [key, stored]) (resolve action observation) rfl
      (respects_event tracks _ _ _ _ _ _)

theorem pauseConnectorActionForReconnect_respects (tracks : Tracks R E)
    {tenantId actionId connectorId eventId : String}
    (edit : ∀ action : AgentAction J, action.status = .failed → action.reconnectRetries ≤ 0 →
      E action { action with status := .uncertain }) :
    (pauseConnectorActionForReconnect tenantId actionId connectorId eventId).Respects R := by
  intro s
  unfold pauseConnectorActionForReconnect
  refine respects_bind tracks.refl (getAgentAction_readOnly _ _) fun action got => ?_
  refine respects_bind tracks.refl (reconnectRetryCount_readOnly _) fun count counted => ?_
  refine respects_bind tracks.refl (readOnly_ensure _ _) fun _ ensured => ?_
  obtain ⟨stored, key, -⟩ := getAgentAction_ok got
  obtain ⟨⟨failed, -, unused⟩, -⟩ := ensure_eq_ok.mp ensured
  rw [← reconnectRetryCount_ok counted] at unused
  exact respects_put tracks (by rw [key, stored]) (edit action failed unused) rfl
    (respects_event tracks _ _ _ _ _ _)

theorem retryConnectorActionAfterReconnect_respects (tracks : Tracks R E)
    {tenantId actionId connectorId user eventId : String}
    (edit : ∀ action : AgentAction J, action.reconnectRetries = 0 → E action (reconnected action)) :
    (retryConnectorActionAfterReconnect tenantId actionId connectorId user eventId).Respects R := by
  intro s
  unfold retryConnectorActionAfterReconnect
  refine respects_bind tracks.refl (getAgentAction_readOnly _ _) fun action got => ?_
  refine respects_bind tracks.refl (reconnectRetryCount_readOnly _) fun count counted => ?_
  refine respects_bind tracks.refl (readOnly_ensure _ _) fun _ ensured => ?_
  obtain ⟨stored, key, -⟩ := getAgentAction_ok got
  obtain ⟨⟨-, -, -, unused⟩, -⟩ := ensure_eq_ok.mp ensured
  rw [← reconnectRetryCount_ok counted] at unused
  exact respects_put tracks (by rw [key, stored]) (edit action unused) rfl
    (respects_event tracks _ _ _ _ _ _)

end Respects

theorem leaseTime_ok {value : DateTime} {time : Time} {s t : AgentStore J}
    (ran : leaseTime value s = (.ok time, t)) : value.toUtc? = some time := by
  unfold leaseTime at ran
  cases known : value.toUtc? with
  | none =>
    rw [known] at ran
    cases ran
  | some time' =>
    rw [known] at ran
    cases ran
    rfl

theorem claimAgentAction_ok {tenantId actionId owner : String} {leaseSeconds : Int}
    {now : DateTime} {s t : AgentStore J} {after : AgentAction J}
    (ran : claimAgentAction tenantId actionId owner leaseSeconds now s = (.ok (some after), t)) :
    ∃ action, s.actions.get? actionId = some action ∧ t.actions.get? actionId = some after ∧
      after.leaseGeneration = action.leaseGeneration + 1 := by
  unfold claimAgentAction at ran
  obtain ⟨claimedAt, -, ran⟩ := (leaseTime_readOnly _).bind_ok ran
  obtain ⟨expiry, -, ran⟩ := (leaseExpiration_readOnly _ _).bind_ok ran
  obtain ⟨_, -, ran⟩ := (readOnly_ensure _ _).bind_ok ran
  rw [read_bind] at ran
  cases stored : s.actions.get? actionId with
  | none =>
    rw [stored] at ran
    cases ran
  | some action =>
    rw [stored] at ran
    change (if _ then _ else _ : Op J _) s = _ at ran
    split_ifs at ran
    · cases ran
      have key : action.id = actionId := Table.key_of_get? stored
      refine ⟨action, rfl, ?_, rfl⟩
      rw [← key]
      exact Table.get?_put_self s.actions (action.claimed owner expiry claimedAt)
    · cases ran

theorem renewAgentActionLease_rejected {tenantId actionId owner : String} {generation : Nat}
    {leaseSeconds : Int} {now : DateTime} {s t : AgentStore J}
    {result : Except StoreError (Option (AgentAction J))}
    (ran : renewAgentActionLease tenantId actionId owner generation leaseSeconds now s = (result, t))
    (rejected : ∀ after, result ≠ .ok (some after)) : t = s := by
  unfold renewAgentActionLease at ran
  rcases (leaseTime_readOnly _).bind_cases ran with ⟨same, -⟩ | ⟨renewedAt, -, ran⟩
  · exact same
  rcases (leaseExpiration_readOnly _ _).bind_cases ran with ⟨same, -⟩ | ⟨expiry, -, ran⟩
  · exact same
  rw [read_bind] at ran
  cases stored : s.actions.get? actionId with
  | none =>
    rw [stored] at ran
    cases ran
    rfl
  | some action =>
    rw [stored] at ran
    change (if _ then _ else _ : Op J _) s = _ at ran
    split_ifs at ran
    · cases ran
      exact absurd rfl (rejected _)
    · cases ran
      rfl

theorem commitAgentActionObservation_cases (jsonable : J → Bool) {tenantId actionId : String}
    {request : CommitRequest J} {s t : AgentStore J} {result : Except StoreError (AgentAction J)}
    (ran : commitAgentActionObservation jsonable tenantId actionId request s = (result, t)) :
    (t = s ∧ ∃ e, result = .error e) ∨
    ∃ action committedAt, s.actions.get? actionId = some action ∧ action.id = actionId ∧
      request.now.toUtc? = some committedAt ∧
      action.leasedTo request.leaseOwnerId request.leaseGeneration committedAt = true ∧
      t.actions = s.actions.put
        (action.committed request.observation request.usage committedAt) ∧
      result = .ok (action.committed request.observation request.usage committedAt) := by
  unfold commitAgentActionObservation at ran
  rcases (readOnly_ensure _ _).bind_cases ran with unchanged | ⟨_, -, ran⟩
  · exact Or.inl unchanged
  rcases (getAgentAction_readOnly _ _).bind_cases ran with unchanged | ⟨action, got, ran⟩
  · exact Or.inl unchanged
  rcases (readOnly_ensure _ _).bind_cases ran with unchanged | ⟨_, -, ran⟩
  · exact Or.inl unchanged
  rcases (leaseTime_readOnly _).bind_cases ran with unchanged | ⟨committedAt, time, ran⟩
  · exact Or.inl unchanged
  rcases (readOnly_ensure _ _).bind_cases ran with unchanged | ⟨_, fence, ran⟩
  · exact Or.inl unchanged
  obtain ⟨stored, key, -⟩ := getAgentAction_ok got
  by_cases nonempty : request.checksum ≠ ""
  · rw [dif_pos nonempty, update_bind] at ran
    cases ran
    exact Or.inr ⟨action, committedAt, stored, key, leaseTime_ok time,
      (ensure_eq_ok.mp fence).1, rfl, rfl⟩
  · rw [dif_neg nonempty] at ran
    cases ran
    exact Or.inl ⟨rfl, _, rfl⟩

theorem commitAgentActionObservation_respects {R : AgentStore J → AgentStore J → Prop}
    {E : AgentAction J → AgentAction J → Prop} (tracks : Tracks R E) (jsonable : J → Bool)
    {tenantId actionId : String} {request : CommitRequest J}
    (edit : ∀ (action : AgentAction J) committedAt,
      E action (action.committed request.observation request.usage committedAt)) :
    (commitAgentActionObservation jsonable tenantId actionId request).Respects R := by
  intro s
  rcases ran : commitAgentActionObservation jsonable tenantId actionId request s with ⟨result, t⟩
  rcases commitAgentActionObservation_cases jsonable ran with ⟨rfl, -⟩ |
    ⟨action, committedAt, stored, key, -, -, actions, -⟩
  · exact tracks.refl t
  · exact tracks.put _ _ action _ (by rw [key, stored]) (edit action committedAt) rfl actions

end AgentStore

end Taroai.Store
