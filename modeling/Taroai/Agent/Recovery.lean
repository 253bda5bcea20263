import Taroai.Agent.System

/-! What a crash leaves behind. A state from which an execution may start agrees with the action
rows: it has no other observation of an action than its row, and each at most once; what it lacks
`observe` adds. Rows lose their observation when an action is run again, and gain one in a commit,
which stores the state with it. -/

namespace Taroai.Agent

open Program (wp_mono)

namespace RunStore

def observed (store : RunStore) (actionId : String) : Option AgentObservation :=
  (store.actions.get? actionId).bind AgentAction.observation

def Forgets (store store' : RunStore) : Prop :=
  ∀ actionId observation, store'.observed actionId = some observation →
    store.observed actionId = some observation

variable {store store' : RunStore}

theorem Forgets.refl (store : RunStore) : Forgets store store := fun _ _ held => held

theorem observed_map {f : AgentAction → AgentAction}
    (rows : ∀ actionId, store'.actions.get? actionId = (store.actions.get? actionId).map f)
    (kept : ∀ action observation, (f action).observation = some observation →
      action.observation = some observation) : Forgets store store' := by
  intro actionId observation held
  rw [observed, rows] at held
  obtain ⟨action, found, same⟩ := Option.bind_eq_some_iff.mp held
  obtain ⟨row, stored, rfl⟩ := Option.map_eq_some_iff.mp found
  rw [observed, stored]
  exact kept row observation same

theorem update_forgets {actionId : String} {f : AgentAction → AgentAction}
    {keeps : ∀ action, (f action).id = action.id}
    (kept : ∀ action observation, (f action).observation = some observation →
      action.observation = some observation) : Forgets store (store.update actionId f keeps) := by
  refine observed_map (get?_update _ _ _ _) fun action observation held => ?_
  split at held
  · exact kept action observation held
  · exact held

theorem expire_forgets (ids : List String) : Forgets store (store.expire ids) := by
  refine observed_map (get?_expire _ _) fun action observation held => ?_
  split at held
  · rw [AgentAction.expired] at held
    split at held <;> exact held
  · exact held

theorem put_forgets {action : AgentAction} (fresh : action.observation = none) :
    Forgets store { store with actions := store.actions.put action } := by
  intro actionId observation held
  simp only [observed, Table.get?_put] at held ⊢
  split at held
  · rw [Option.bind_some, fresh] at held
    cases held
  · exact held

theorem observed_update_self (store : RunStore) {actionId : String} (f : AgentAction → AgentAction)
    (keeps : ∀ action, (f action).id = action.id) {observation : AgentObservation}
    (sets : ∀ action, (f action).observation = some observation) {found : AgentObservation}
    (held : (store.update actionId f keeps).observed actionId = some found) :
    found = observation := by
  rw [observed, get?_update] at held
  obtain ⟨row, stored, same⟩ := Option.bind_eq_some_iff.mp held
  obtain ⟨action, present, rfl⟩ := Option.map_eq_some_iff.mp stored
  rw [if_pos (Table.key_of_get? present), sets] at same
  exact (Option.some.inj same).symm

theorem observed_update_ne (store : RunStore) {actionId other : String}
    (f : AgentAction → AgentAction) (keeps : ∀ action, (f action).id = action.id)
    (distinct : other ≠ actionId) :
    (store.update actionId f keeps).observed other = store.observed other := by
  rw [observed, get?_update, observed]
  cases present : store.actions.get? other with
  | none => rfl
  | some row =>
    rw [Option.map_some, if_neg]
    rw [Table.key_of_get? present]
    exact distinct

end RunStore

def Call.records : Call → Bool
  | .saveState _ | .createCheckpoint _ _ | .commitObservation _ _ _ _ => true
  | .getRun | .isCancelled | .updateRunStatus _ | .loadState | .latestCheckpoint
  | .createCycle _ _ | .recoverExpiredActions | .listActions | .createAction _ | .getAction _
  | .claimAction _ | .renewLease _ _ | .cancelAction _ | .pauseForReconnect _ _
  | .updateApprovalExecution _ _ | .ask _ => false

theorem respond_quiet {store store' : RunStore} {m : Mode} {c : Call} {proposed a : c.Answer}
    (quiet : c.records = false) (legal : m.Allows c)
    (responded : store.respond c proposed = some (a, store')) :
    store'.saved = store.saved ∧ store'.latest = store.latest ∧ store.Forgets store' := by
  have same {t : RunStore} {b : c.Answer} (result : some (b, t) = some (a, store'))
      (saved : t.saved = store.saved) (latest : t.latest = store.latest)
      (forgets : store.Forgets t) :
      store'.saved = store.saved ∧ store'.latest = store.latest ∧ store.Forgets store' := by
    cases result
    exact ⟨saved, latest, forgets⟩
  cases c with
  | saveState state => cases quiet
  | createCheckpoint sequence state => cases quiet
  | commitObservation actionId generation observation state => cases quiet
  | createCycle cycleId iteration =>
    unfold RunStore.respond at responded
    dsimp only at responded
    split at responded
    · exact same responded rfl rfl (.refl _)
    · exact same responded rfl rfl (.refl _)
  | recoverExpiredActions => exact same responded rfl rfl (RunStore.expire_forgets _)
  | listActions =>
    unfold RunStore.respond at responded
    dsimp only at responded
    split at responded
    · exact same responded rfl rfl (.refl _)
    · cases responded
  | createAction action =>
    unfold RunStore.respond at responded
    dsimp only at responded
    split at responded
    · exact same responded rfl rfl (.refl _)
    · exact same responded rfl rfl (RunStore.put_forgets legal.2.2)
  | claimAction actionId =>
    unfold RunStore.respond at responded
    dsimp only at responded
    split at responded
    · split at responded
      · exact same responded rfl rfl (RunStore.update_forgets fun _ _ held => held)
      · exact same responded rfl rfl (.refl _)
    · exact same responded rfl rfl (.refl _)
  | cancelAction actionId =>
    refine same responded rfl rfl (RunStore.update_forgets fun action observation held => ?_)
    rw [AgentAction.cancelled] at held
    split at held <;> exact held
  | pauseForReconnect actionId connectorId =>
    unfold RunStore.respond at responded
    dsimp only at responded
    split at responded
    · split at responded
      · exact same responded rfl rfl (RunStore.update_forgets fun _ _ held => held)
      · exact same responded rfl rfl (.refl _)
    · exact same responded rfl rfl (.refl _)
  | _ => exact same responded rfl rfl (.refl _)

/-- The observations are those of the rows, as far as the rows have any, and at most one of each
action. -/
structure Faithful (store : RunStore) (observations : List AgentObservation) : Prop where
  agrees : ∀ observation ∈ observations, ∀ committed,
    store.observed observation.actionId = some committed → committed = observation
  distinct : (observations.map AgentObservation.actionId).Nodup

section Faithful

variable {store store' : RunStore} {observations : List AgentObservation}

theorem Faithful.nil (store : RunStore) : Faithful store [] :=
  ⟨fun _ member => (by cases member), List.nodup_nil⟩

theorem Faithful.forget (faithful : Faithful store observations) (forgets : store.Forgets store') :
    Faithful store' observations :=
  ⟨fun observation member committed held =>
    faithful.agrees observation member committed (forgets _ _ held), faithful.distinct⟩

theorem Faithful.adopt {actions : List AgentAction} (faithful : Faithful store observations)
    (listed : Faithful store (actions.filterMap AgentAction.observation)) :
    Faithful store (observations ++ Nodes.recoveredObservations observations actions) := by
  have sublist : (Nodes.recoveredObservations observations actions).Sublist
      (actions.filterMap AgentAction.observation) := List.filter_sublist
  constructor
  · intro observation member
    rcases List.mem_append.mp member with known | recovered
    · exact faithful.agrees observation known
    · exact listed.agrees observation (sublist.subset recovered)
  · rw [List.map_append, List.nodup_append]
    refine ⟨faithful.distinct, (sublist.map _).nodup listed.distinct, ?_⟩
    intro actionId known actionId' recovered same
    obtain ⟨observation, member, rfl⟩ := List.mem_map.mp recovered
    have missing := (List.mem_filter.mp member).2
    simp only [decide_eq_true_eq] at missing
    exact missing (same ▸ known)

theorem Faithful.commit {actionId : String} {observation : AgentObservation}
    (faithful : Faithful store observations) (own : observation.actionId = actionId)
    (committed : ∀ found, store'.observed actionId = some found → found = observation)
    (others : ∀ other, other ≠ actionId → store'.observed other = store.observed other) :
    Faithful store'
      (observations.filter (fun item => item.actionId ≠ actionId) ++ [observation]) := by
  have sublist : (observations.filter fun item => item.actionId ≠ actionId).Sublist observations :=
    List.filter_sublist
  have away : ∀ item ∈ observations.filter (fun item => item.actionId ≠ actionId),
      item.actionId ≠ actionId := fun item member => by
    simpa using (List.mem_filter.mp member).2
  constructor
  · intro item member
    rcases List.mem_append.mp member with kept | new
    · rw [others item.actionId (away item kept)]
      exact faithful.agrees item (sublist.subset kept)
    · obtain rfl := List.mem_singleton.mp new
      rw [own]
      exact committed
  · rw [List.map_append, List.nodup_append]
    refine ⟨(sublist.map _).nodup faithful.distinct, List.nodup_singleton _, ?_⟩
    intro known kept new single same
    obtain ⟨item, member, rfl⟩ := List.mem_map.mp kept
    rw [List.map_singleton, List.mem_singleton] at single
    exact away item member (same.trans (single.trans own))

theorem Faithful.unaffected {actionId : String} (faithful : Faithful store observations)
    (unknown : ∀ item ∈ observations, item.actionId ≠ actionId)
    (others : ∀ other, other ≠ actionId → store'.observed other = store.observed other) :
    Faithful store' observations := by
  refine ⟨fun item member => ?_, faithful.distinct⟩
  rw [others item.actionId (unknown item member)]
  exact faithful.agrees item member

end Faithful

/-- The attempt of the state began at an iteration that it has reached. -/
def Started (s : AgentRuntimeState) : Prop :=
  s.runtimeMetadata.attemptStartIteration ≤ s.iteration

structure Stored (store : RunStore) : Prop where
  rows : ∀ actionId observation, store.observed actionId = some observation →
    observation.actionId = actionId
  saved : ∀ state, store.saved = some state → Started state ∧
    state.checkpointSequence ≤ store.sequence ∧
    (state.checkpointSequence = 0 → state.observations = []) ∧
    (state.checkpointSequence = store.sequence → Faithful store state.observations)
  latest : ∀ checkpoint, store.latest = some checkpoint → Started checkpoint.statePayload ∧
    0 < checkpoint.sequence ∧ Faithful store checkpoint.statePayload.observations

structure Fits (store : RunStore) (m : Mode) : Prop where
  sequence : m.sequence ≤ store.sequence
  unnumbered : m.sequence = 0 → m.observations = []
  faithful : Faithful store m.observations
  listed : ∀ named actions, m.phase = .resuming named (some actions) →
    Faithful store (actions.filterMap AgentAction.observation)

section Store

variable {store store' : RunStore} {m : Mode}

theorem sequence_of_latest (same : store'.latest = store.latest) :
    store'.sequence = store.sequence := by
  rw [RunStore.sequence, same, RunStore.sequence]

theorem Stored.forget (stored : Stored store) (saved : store'.saved = store.saved)
    (latest : store'.latest = store.latest) (forgets : store.Forgets store') : Stored store' := by
  have sequence := sequence_of_latest latest
  refine ⟨fun actionId observation held => ?_, fun state held => ?_, fun checkpoint held => ?_⟩
  · exact stored.rows actionId observation (forgets _ _ held)
  · rw [saved] at held
    obtain ⟨started, bounded, unnumbered, faithful⟩ := stored.saved state held
    rw [sequence]
    exact ⟨started, bounded, unnumbered, fun newest => (faithful newest).forget forgets⟩
  · rw [latest] at held
    obtain ⟨started, positive, faithful⟩ := stored.latest checkpoint held
    exact ⟨started, positive, faithful.forget forgets⟩

theorem Fits.forget (fits : Fits store m) (sequence : store.sequence ≤ store'.sequence)
    (forgets : store.Forgets store') : Fits store' m where
  sequence := Nat.le_trans fits.sequence sequence
  unnumbered := fits.unnumbered
  faithful := fits.faithful.forget forgets
  listed := fun named actions phase => (fits.listed named actions phase).forget forgets

theorem Stored.listed (stored : Stored store) {actions : List AgentAction}
    (order : actions.Perm store.actions.entries) :
    Faithful store (actions.filterMap AgentAction.observation) := by
  have observed {action : AgentAction} {observation : AgentObservation} (member : action ∈ actions)
      (held : action.observation = some observation) :
      store.observed action.id = some observation := by
    rw [RunStore.observed, Table.get?_of_mem (order.subset member)]
    exact held
  constructor
  · intro observation member committed found
    obtain ⟨action, listed, held⟩ := List.mem_filterMap.mp member
    have own := observed listed held
    rw [stored.rows _ _ own, own] at found
    exact (Option.some.inj found).symm
  · have distinct : (actions.map AgentAction.id).Nodup :=
      (order.map AgentAction.id).nodup_iff.mpr store.actions.nodup
    have sublist : ∀ rest : List AgentAction, (∀ action ∈ rest, action ∈ actions) →
        ((rest.filterMap AgentAction.observation).map AgentObservation.actionId).Sublist
          (rest.map AgentAction.id) := by
      intro rest members
      induction rest with
      | nil => exact .slnil
      | cons action rest ih =>
        have later := ih fun other member => members other (List.mem_cons_of_mem _ member)
        cases held : action.observation with
        | none =>
          rw [List.filterMap_cons_none held]
          exact later.cons _
        | some observation =>
          rw [List.filterMap_cons_some held, List.map_cons, List.map_cons,
            stored.rows _ _ (observed (members action List.mem_cons_self) held)]
          exact later.cons_cons _
    exact (sublist actions fun _ member => member).nodup distinct

theorem Fits.same {m' : Mode} (fits : Fits store m) (sequence : m'.sequence = m.sequence)
    (observations : m'.observations = m.observations) (phase : m'.phase = m.phase) :
    Fits store m' where
  sequence := sequence ▸ fits.sequence
  unnumbered := by rw [sequence, observations]; exact fits.unnumbered
  faithful := observations ▸ fits.faithful
  listed := by rw [phase]; exact fits.listed

theorem Fits.list (fits : Fits store m) (stored : Stored store) {actions : List AgentAction}
    (order : actions.Perm store.actions.entries) : Fits store (m.list actions) := by
  unfold Mode.list
  split
  · refine ⟨fits.sequence, fits.unnumbered, fits.faithful, fun named listed phase => ?_⟩
    cases phase
    exact stored.listed order
  · exact fits

end Store

section Respond

variable {store store' : RunStore} {m : Mode}

/-- Another execution, or a request, only moves the store on: its checkpoints are new, and rows
only lose observations. -/
structure Grows (store store' : RunStore) : Prop where
  sequence : store.sequence ≤ store'.sequence
  forgets : store.Forgets store'

theorem Grows.trans {store'' : RunStore} (first : Grows store store') (next : Grows store' store'') :
    Grows store store'' :=
  ⟨Nat.le_trans first.sequence next.sequence,
    fun _ _ held => first.forgets _ _ (next.forgets _ _ held)⟩

theorem saved_stored (stored : Stored store) (fits : Fits store m) {s : AgentRuntimeState}
    (coherent : Coherent m s) : Stored { store with saved := some s } := by
  have same : store.Forgets { store with saved := some s } := fun _ _ held => held
  refine ⟨stored.rows, fun state held => ?_, fun checkpoint held => ?_⟩
  swap
  · obtain ⟨started, positive, faithful⟩ := stored.latest checkpoint held
    exact ⟨started, positive, faithful.forget same⟩
  cases held
  refine ⟨coherent.started, ?_, ?_, fun _ => ?_⟩
  · rw [coherent.sequence]
    exact fits.sequence
  · rw [coherent.sequence, coherent.observations]
    exact fits.unnumbered
  · rw [coherent.observations]
    exact fits.faithful.forget same

theorem adopted_faithful (fits : Fits store m) {s : AgentRuntimeState} (adopts : Adopts m s) :
    Faithful store s.observations := by
  rcases adopts with same | ⟨named, actions, phase, same⟩
  · rw [same]
    exact fits.faithful
  · rw [same]
    exact fits.faithful.adopt (fits.listed named actions phase)

theorem checkpoint_stored {base : RunStore} (stored : Stored store)
    (saved : base.saved = store.saved)
    (rows : ∀ actionId observation, base.observed actionId = some observation →
      observation.actionId = actionId)
    {s : AgentRuntimeState} (started : Started s) (faithful : Faithful base s.observations) :
    Stored (base.checkpoint (store.sequence + 1) s) := by
  refine ⟨rows, fun state held => ?_, fun checkpoint held => ?_⟩
  · obtain ⟨begun, bounded, unnumbered, -⟩ := stored.saved state (saved ▸ held)
    refine ⟨begun, Nat.le_succ_of_le bounded, unnumbered, fun newest => ?_⟩
    exact absurd (newest ▸ bounded) (Nat.not_succ_le_self _)
  · cases held
    exact ⟨started, Nat.succ_pos _, faithful.forget fun _ _ held => held⟩

theorem respond_stored {c : Call} {proposed a : c.Answer} (stored : Stored store)
    (fits : Fits store m) (legal : m.Allows c)
    (responded : store.respond c proposed = some (a, store')) :
    Stored store' ∧ Fits store' (m.after c a) := by
  cases records : c.records with
  | false =>
    obtain ⟨saved, latest, forgets⟩ := respond_quiet records legal responded
    have kept := stored.forget saved latest forgets
    have still := fits.forget (Nat.le_of_eq (sequence_of_latest latest).symm) forgets
    refine ⟨kept, ?_⟩
    cases c with
    | listActions =>
      unfold RunStore.respond at responded
      dsimp only at responded
      split at responded
      · rename_i order
        cases responded
        exact still.list kept order
      · cases responded
    | createCycle cycleId iteration =>
      change Fits store' (if a then _ else _)
      split
      · exact still.same rfl rfl rfl
      · exact still
    | claimAction actionId => cases a <;> exact still.same rfl rfl rfl
    | ask question => cases question <;> exact still.same rfl rfl rfl
    | saveState state => cases records
    | createCheckpoint sequence state => cases records
    | commitObservation actionId generation observation state => cases records
    | _ => exact still
  | true =>
    cases c with
    | saveState state =>
      cases responded
      exact ⟨saved_stored stored fits legal, fits.forget (Nat.le_refl _) (.refl _)⟩
    | createCheckpoint sequence state =>
      obtain ⟨adopts, coherent, -⟩ := legal
      have faithful := adopted_faithful fits adopts
      unfold RunStore.respond at responded
      dsimp only at responded
      split at responded
      · rename_i next
        cases responded
        subst next
        have same : store.Forgets (store.checkpoint (store.sequence + 1) state) :=
          fun _ _ held => held
        refine ⟨checkpoint_stored stored rfl stored.rows coherent.started faithful, ?_⟩
        refine ⟨Nat.le_refl _, fun zero => (by cases zero), faithful.forget same, ?_⟩
        exact fun named actions phase => (fits.listed named actions phase).forget same
      · cases responded
        exact ⟨stored, fits⟩
    | commitObservation actionId generation observation state =>
      obtain ⟨running, own, bounded, started, observations⟩ := legal
      unfold RunStore.respond at responded
      dsimp only at responded
      split at responded
      · rename_i row _ present
        split at responded
        · cases responded
          let base := store.update actionId (fun action => action.committed observation)
            fun _ => rfl
          have committed : ∀ found, base.observed actionId = some found → found = observation :=
            fun found => RunStore.observed_update_self store _ _ fun _ => rfl
          have others : ∀ other, other ≠ actionId → base.observed other = store.observed other :=
            fun other => RunStore.observed_update_ne store _ _
          have faithful : Faithful base state.observations := by
            rw [observations]
            exact fits.faithful.commit own committed others
          have rows : ∀ other found, base.observed other = some found → found.actionId = other := by
            intro other found held
            by_cases same : other = actionId
            · subst same
              rw [committed found held]
              exact own
            · exact stored.rows other found (others other same ▸ held)
          have kept : Stored (base.checkpoint (store.sequence + 1) state) :=
            @checkpoint_stored store base stored rfl rows state started faithful
          refine ⟨kept, ?_⟩
          refine ⟨Nat.le_refl _, fun zero => (by cases zero), ?_, fun named actions phase => ?_⟩
          · exact faithful.forget fun _ _ held => held
          · cases running.symm.trans phase
        · cases responded
          exact ⟨stored, fits⟩
      · cases responded
        exact ⟨stored, fits⟩
    | _ => cases records

/-- A mode whose state is older than the latest checkpoint, which the store will not let it
replace. -/
structure Stale (store : RunStore) (m : Mode) : Prop where
  numbered : 0 < m.sequence
  older : m.sequence < store.sequence

theorem respond_grows {c : Call} {proposed a : c.Answer} (resuming : m.phase ≠ .running)
    (legal : m.Allows c) (responded : store.respond c proposed = some (a, store')) :
    Grows store store' := by
  cases records : c.records with
  | false =>
    obtain ⟨-, latest, forgets⟩ := respond_quiet records legal responded
    exact ⟨Nat.le_of_eq (sequence_of_latest latest).symm, forgets⟩
  | true =>
    cases c with
    | saveState state =>
      cases responded
      exact ⟨Nat.le_refl _, fun _ _ held => held⟩
    | createCheckpoint sequence state =>
      unfold RunStore.respond at responded
      dsimp only at responded
      split at responded
      · rename_i next
        cases responded
        subst next
        exact ⟨Nat.le_succ _, fun _ _ held => held⟩
      · cases responded
        exact ⟨Nat.le_refl _, fun _ _ held => held⟩
    | commitObservation actionId generation observation state => exact absurd legal.1 resuming
    | _ => cases records

theorem respond_retains {c : Call} {proposed a : c.Answer} (resuming : m.phase ≠ .running)
    (legal : m.Allows c) (responded : store.respond c proposed = some (a, store')) :
    store'.Forgets store := by
  have retained {f : AgentAction → AgentAction}
      (rows : ∀ actionId, store'.actions.get? actionId = (store.actions.get? actionId).map f)
      (kept : ∀ action, (f action).observation = action.observation) : store'.Forgets store := by
    intro actionId observation held
    obtain ⟨row, stored, same⟩ := Option.bind_eq_some_iff.mp held
    rw [RunStore.observed, rows, stored]
    exact (kept row).trans same
  cases c with
  | createCycle cycleId iteration => exact absurd legal.1 resuming
  | createAction action => exact absurd legal.1 resuming
  | claimAction actionId => exact absurd legal resuming
  | commitObservation actionId generation observation state => exact absurd legal.1 resuming
  | pauseForReconnect actionId connectorId => exact absurd legal resuming
  | recoverExpiredActions =>
    cases responded
    refine retained (RunStore.get?_expire _ _) fun action => ?_
    split
    · unfold AgentAction.expired
      split <;> rfl
    · rfl
  | cancelAction actionId =>
    cases responded
    refine retained (RunStore.get?_update _ _ _ _) fun action => ?_
    split
    · unfold AgentAction.cancelled
      split <;> rfl
    · rfl
  | listActions =>
    unfold RunStore.respond at responded
    dsimp only at responded
    split at responded
    · cases responded
      exact .refl _
    · cases responded
  | createCheckpoint sequence state =>
    unfold RunStore.respond at responded
    dsimp only at responded
    split at responded
    · cases responded
      exact fun _ _ held => held
    · cases responded
      exact .refl _
  | _ =>
    cases responded
    exact fun _ _ held => held

theorem after_resuming {c : Call} (resuming : m.phase ≠ .running) (a : c.Answer) :
    (m.after c a).phase ≠ .running := by
  cases c with
  | listActions =>
    change (m.list a).phase ≠ .running
    unfold Mode.list
    split
    · exact fun running => by cases running
    · exact resuming
  | createCheckpoint sequence state => cases a <;> exact resuming
  | createCycle cycleId iteration => cases a <;> exact resuming
  | claimAction actionId => cases a <;> exact resuming
  | commitObservation actionId generation observation state => cases a <;> exact resuming
  | ask question => cases question <;> exact resuming
  | _ => exact resuming

theorem after_quiet {c : Call} (records : c.records = false) (a : c.Answer) :
    (m.after c a).sequence = m.sequence := by
  cases c with
  | listActions =>
    change (m.list a).sequence = m.sequence
    unfold Mode.list
    split <;> rfl
  | createCycle cycleId iteration => cases a <;> rfl
  | claimAction actionId => cases a <;> rfl
  | ask question => cases question <;> rfl
  | saveState state => cases records
  | createCheckpoint sequence state => cases records
  | commitObservation actionId generation observation state => cases records
  | _ => rfl

theorem respond_stale {c : Call} {proposed a : c.Answer} (stored : Stored store)
    (stale : Stale store m) (resuming : m.phase ≠ .running) (legal : m.Allows c)
    (responded : store.respond c proposed = some (a, store')) :
    Stored store' ∧ Stale store' (m.after c a) := by
  have kept {m' : Mode} (same : m'.sequence = m.sequence)
      (sequence : store'.sequence = store.sequence) : Stale store' m' :=
    ⟨same ▸ stale.numbered, by rw [same, sequence]; exact stale.older⟩
  cases records : c.records with
  | false =>
    obtain ⟨saved, latest, forgets⟩ := respond_quiet records legal responded
    have sequence := sequence_of_latest latest
    exact ⟨stored.forget saved latest forgets, kept (after_quiet records a) sequence⟩
  | true =>
    cases c with
    | saveState state =>
      cases responded
      have same : store.Forgets { store with saved := some state } := fun _ _ held => held
      have sequence : state.checkpointSequence = m.sequence := Coherent.sequence legal
      refine ⟨⟨stored.rows, fun found held => ?_, fun checkpoint held => ?_⟩, kept rfl rfl⟩
      · cases held
        refine ⟨Coherent.started legal, ?_, fun zero => ?_, fun newest => ?_⟩
        · rw [sequence]
          exact Nat.le_of_lt stale.older
        · rw [sequence] at zero
          exact absurd zero (Nat.ne_of_gt stale.numbered)
        · rw [sequence] at newest
          exact absurd newest (Nat.ne_of_lt stale.older)
      · obtain ⟨started, positive, faithful⟩ := stored.latest checkpoint held
        exact ⟨started, positive, faithful.forget same⟩
    | createCheckpoint sequence state =>
      have next : sequence = m.sequence + 1 := legal.2.2 stale.numbered
      have refused : sequence ≠ store.sequence + 1 := by
        have := stale.older
        omega
      unfold RunStore.respond at responded
      dsimp only at responded
      rw [if_neg refused] at responded
      cases responded
      exact ⟨stored, stale⟩
    | commitObservation actionId generation observation state => exact absurd legal.1 resuming
    | _ => cases records

end Respond

end Taroai.Agent
