import Taroai.Agent.Recovery

/-! What every run of the system keeps, and what an execution finds when it starts again. Requests
and executions write only states that agree with the rows; an execution that was overtaken by a
request goes on with its own state, whose next checkpoint the store refuses. -/

namespace Taroai.Agent

section Requests

open Program (wp wp_bind wp_mono wp_pure runIn_invariant runIn_of_wp)

variable {store : RunStore} {m : Mode} {α : Type}

def inStore (propose : Environment) : Protocol Call Call.Answer RunStore where
  legal _ _ := True
  answers store c a store' := store.respond c (propose c) = some (a, store')

abbrev Preserves (propose : Environment) (p : Task α) (store : RunStore) : Prop :=
  wp (inStore propose) (fun _ store' => Stored store' ∧ Grows store store')
    (fun store' => Stored store' ∧ Grows store store') p store

theorem inStore_call {β : Type} {Q : β → RunStore → Prop} {R : RunStore → Prop}
    {propose : Environment} {c : Call} {f : c.Answer → Task β}
    (each : ∀ a store', store.respond c (propose c) = some (a, store') →
      wp (inStore propose) Q R (f a) store') :
    wp (inStore propose) Q R (call c >>= f) store :=
  ⟨trivial, each⟩

theorem Conducts.preserves {Q : α → Mode → Prop} {p : Task α} (propose : Environment)
    (stored : Stored store) (usable : Fits store m ∨ Stale store m) (resuming : m.phase ≠ .running)
    (conducts : Conducts Q p m) : Preserves propose p store := by
  have each : ∀ (p : Task α) (m : Mode) (now : RunStore), Stored now → Grows store now →
      Fits now m ∨ Stale now m → m.phase ≠ .running → Conducts Q p m →
      wp (inStore propose) (fun _ store' => Stored store' ∧ Grows store store')
        (fun store' => Stored store' ∧ Grows store store') p now := by
    intro p
    induction p with
    | pure a => exact fun m now kept grows _ _ _ => ⟨kept, grows⟩
    | raise => exact fun m now kept grows _ _ _ => ⟨kept, grows⟩
    | call c next ih =>
      intro m now kept grows usable resuming conducts
      refine ⟨trivial, fun a later responded => ?_⟩
      have moves := grows.trans (respond_grows resuming conducts.1 responded)
      have goesOn := conducts.2 a (m.after c a) rfl
      rcases usable with fits | stale
      · obtain ⟨kept, fits⟩ := respond_stored kept fits conducts.1 responded
        exact ih a _ later kept moves (.inl fits) (after_resuming resuming a) goesOn
      · obtain ⟨kept, stale⟩ := respond_stale kept stale resuming conducts.1 responded
        exact ih a _ later kept moves (.inr stale) (after_resuming resuming a) goesOn
  exact each p m store stored ⟨Nat.le_refl _, .refl _⟩ usable resuming conducts

theorem Mode.restored_coherent {s : AgentRuntimeState} (started : Started s) :
    Coherent (.restored s) s := by
  refine ⟨rfl, rfl, Nat.le_refl _, started, fun named listed phase => ?_⟩
  cases phase
  exact ⟨rfl, rfl⟩

theorem Mode.restored_resuming (s : AgentRuntimeState) : (Mode.restored s).phase ≠ .running :=
  fun running => by cases running

structure Usable (store : RunStore) (s : AgentRuntimeState) : Prop where
  started : Started s
  fits : Fits store (.restored s) ∨ Stale store (.restored s)

theorem fits_restored {s : AgentRuntimeState} (bounded : s.checkpointSequence ≤ store.sequence)
    (unnumbered : s.checkpointSequence = 0 → s.observations = [])
    (faithful : Faithful store s.observations) : Fits store (.restored s) :=
  ⟨bounded, unnumbered, faithful, fun _ _ phase => by cases phase⟩

theorem Stored.usable {s : AgentRuntimeState} (stored : Stored store)
    (saved : store.saved = some s) : Usable store s := by
  obtain ⟨started, bounded, unnumbered, faithful⟩ := stored.saved s saved
  refine ⟨started, ?_⟩
  by_cases newest : s.checkpointSequence = store.sequence
  · exact .inl (fits_restored bounded unnumbered (faithful newest))
  by_cases zero : s.checkpointSequence = 0
  · refine .inl (fits_restored bounded unnumbered ?_)
    rw [unnumbered zero]
    exact .nil store
  · exact .inr ⟨Nat.pos_of_ne_zero zero, Nat.lt_of_le_of_ne bounded newest⟩

theorem initial_usable (runtime : AgentRuntime) (status : RunStatus) (store : RunStore) :
    Usable store (initialState runtime status) :=
  ⟨Nat.le_refl 0, .inl (fits_restored (Nat.zero_le _) (fun _ => rfl) (.nil store))⟩

theorem Stored.restored (stored : Stored store) (runtime : AgentRuntime) (status : RunStatus) :
    let s := store.restored (initialState runtime status)
    Started s ∧ s.checkpointSequence = store.sequence ∧
      (s.checkpointSequence = 0 → s.observations = []) ∧ Faithful store s.observations := by
  have loaded : ∀ state, store.saved.getD (initialState runtime status) = state →
      Started state ∧ state.checkpointSequence ≤ store.sequence ∧
        (state.checkpointSequence = 0 → state.observations = []) ∧
          (state.checkpointSequence = store.sequence → Faithful store state.observations) := by
    rintro state rfl
    cases saved : store.saved with
    | none => exact ⟨Nat.le_refl 0, Nat.zero_le _, fun _ => rfl, fun _ => .nil store⟩
    | some state => exact stored.saved state saved
  obtain ⟨started, bounded, unnumbered, faithful⟩ := loaded _ rfl
  intro s
  have restored : s = store.restored (initialState runtime status) := rfl
  unfold RunStore.restored at restored
  cases latest : store.latest with
  | none =>
    rw [latest] at restored
    have newest : (store.saved.getD (initialState runtime status)).checkpointSequence =
        store.sequence := by
      have zero : store.sequence = 0 := by rw [RunStore.sequence, latest]; rfl
      omega
    rw [restored]
    exact ⟨started, newest, unnumbered, faithful newest⟩
  | some checkpoint =>
    have sequence : store.sequence = checkpoint.sequence := by rw [RunStore.sequence, latest]; rfl
    rw [latest] at restored
    dsimp only at restored
    obtain ⟨begun, positive, held⟩ := stored.latest checkpoint latest
    split at restored
    · rw [restored]
      refine ⟨begun, sequence.symm, fun zero => ?_, held⟩
      exact absurd zero (Nat.ne_of_gt positive)
    · rename_i older
      rw [restored]
      have newest : (store.saved.getD (initialState runtime status)).checkpointSequence =
          store.sequence := by omega
      exact ⟨started, newest, unnumbered, faithful newest⟩

theorem Stored.status (stored : Stored store) (now : RunStatus) :
    Stored { store with runStatus := now } :=
  stored.forget rfl rfl fun _ _ held => held

theorem preserves_status {propose : Environment} {now : RunStatus} {p : Task α}
    (preserves : Preserves propose p { store with runStatus := now }) :
    Preserves propose (call (.updateRunStatus now) >>= fun _ => p) store := by
  refine inStore_call fun a store' responded => ?_
  cases responded
  have grows : Grows store { store with runStatus := now } :=
    ⟨Nat.le_refl _, fun _ _ held => held⟩
  exact Program.wp_weaken preserves (fun _ _ kept => ⟨kept.1, grows.trans kept.2⟩)
    fun _ kept => ⟨kept.1, grows.trans kept.2⟩

section Programs

variable {s : AgentRuntimeState} {s₀ : AgentRuntimeState} {m₀ : Mode}

theorem closeCancelled_conducts (coherent : Coherent m s) :
    Conducts (fun _ _ => True) (closeCancelled s) m := by
  refine conducts_bind (cancelCurrentAction_conducts (coherent.same rfl)) ?_
  rintro _ m' rfl
  refine conducts_bind (saveState_serves ((Continues.refl coherent).same rfl)) fun t _ kept => ?_
  refine conducts_bind (persistCheckpoint_serves (kept.same rfl)) fun u _ kept => ?_
  refine conducts_bind (saveState_serves (kept.same rfl)) fun v _ kept => ?_
  exact conducts_bind (destroyRuntimeSandboxSession_serves kept) fun _ _ _ => trivial

theorem closeRejected_conducts (coherent : Coherent m s) :
    Conducts (fun _ _ => True) (closeRejected s) m := by
  refine conducts_bind (saveState_serves ((Continues.refl coherent).same rfl)) fun t _ kept => ?_
  refine conducts_bind (saveState_serves (kept.same rfl)) fun u _ kept => ?_
  exact conducts_bind (destroyRuntimeSandboxSession_serves kept) fun _ _ _ => trivial

theorem closeGuardrail_serves (before : Continues s₀ m₀ s m) (approvalId : String) :
    Serves s₀ m₀ (closeGuardrail approvalId s) m := by
  unfold closeGuardrail
  split
  · exact conducts_call trivial (fun _ => rfl) fun _ => saveState_serves (before.same rfl)
  · exact before

theorem applyApproval_conducts (coherent : Coherent m s) (approvalId : String) :
    Conducts (fun _ _ => True) (applyApproval approvalId s) m := by
  refine conducts_call trivial (fun _ => rfl) fun _ => ?_
  refine conducts_call trivial (fun _ => rfl) fun _ => ?_
  have approved : Continues s m (approvedState s) m := (Continues.refl coherent).same rfl
  refine conducts_bind (closeGuardrail_serves approved approvalId) fun t _ kept => ?_
  dsimp only
  split
  · exact conducts_bind (finalize_serves kept) fun _ _ _ => trivial
  · exact conducts_bind (saveState_serves (kept.same rfl)) fun _ _ _ => trivial

theorem Usable.preserves {Q : α → Mode → Prop} {p : Task α} (usable : Usable store s)
    (stored : Stored store) (propose : Environment)
    (conducts : Coherent (.restored s) s → Conducts Q p (.restored s)) :
    Preserves propose p store :=
  Conducts.preserves propose stored usable.fits (Mode.restored_resuming s)
    (conducts (Mode.restored_coherent usable.started))

end Programs

variable (runtime : AgentRuntime) (propose : Environment)

theorem cancelRun_preserves (stored : Stored store) :
    Preserves propose (cancelRun runtime) store := by
  refine inStore_call fun status _ responded => ?_
  cases responded
  split
  · exact ⟨stored, Nat.le_refl _, .refl _⟩
  refine preserves_status (inStore_call fun saved _ responded => ?_)
  cases responded
  have kept := stored.status .cancelled
  have usable : ∀ saved, store.saved = saved → Usable { store with runStatus := .cancelled }
      (saved.getD (initialState runtime .cancelled)) := by
    intro saved found
    cases saved with
    | none => exact initial_usable _ _ _
    | some state => exact kept.usable found
  exact (usable _ rfl).preserves kept propose closeCancelled_conducts

theorem rejectApproval_preserves (stored : Stored store) (approvalId : String) :
    Preserves propose (rejectApproval approvalId) store := by
  refine inStore_call fun saved _ responded => ?_
  cases responded
  cases saved : store.saved with
  | none => exact ⟨stored, Nat.le_refl _, .refl _⟩
  | some state =>
    dsimp only
    split
    · exact ⟨stored, Nat.le_refl _, .refl _⟩
    refine inStore_call fun status _ responded => ?_
    cases responded
    split
    · exact ⟨stored, Nat.le_refl _, .refl _⟩
    have kept := stored.status .cancelled
    exact preserves_status ((kept.usable saved).preserves kept propose closeRejected_conducts)

theorem resumeAfterApproval_preserves (stored : Stored store) (approvalId : String) :
    Preserves propose (resumeAfterApproval approvalId) store := by
  refine inStore_call fun saved _ responded => ?_
  cases responded
  cases saved : store.saved with
  | none => exact ⟨stored, Nat.le_refl _, .refl _⟩
  | some state =>
    dsimp only
    split
    · exact ⟨stored, Nat.le_refl _, .refl _⟩
    · exact (stored.usable saved).preserves stored propose fun coherent =>
        applyApproval_conducts coherent approvalId

theorem core_requeue (s : AgentRuntimeState) (action : AgentAction) :
    core (requeue s action) = core s := by
  unfold requeue
  split <;> rfl

theorem restoreState_inStore {β : Type} {Q : β → RunStore → Prop} {R : RunStore → Prop}
    {initial : AgentRuntimeState} {f : AgentRuntimeState → Task β}
    (next : wp (inStore propose) Q R (f (store.restored initial)) store) :
    wp (inStore propose) Q R (Services.restoreState initial >>= f) store := by
  refine wp_bind (inStore_call fun latest _ responded => ?_)
  cases responded
  refine inStore_call fun saved _ responded => ?_
  cases responded
  unfold RunStore.restored at next
  cases latest : store.latest with
  | none =>
    rw [latest] at next
    exact next
  | some checkpoint =>
    rw [latest] at next
    dsimp only at next ⊢
    split at next
    · rename_i older
      rw [if_pos older]
      exact next
    · rename_i older
      rw [if_neg older]
      exact next

theorem anotherAttempt_usable (runtime : AgentRuntime) {s t : AgentRuntimeState}
    (sequence : s.checkpointSequence = store.sequence)
    (unnumbered : s.checkpointSequence = 0 → s.observations = [])
    (faithful : Faithful store s.observations) (alike : core t = core s) :
    Usable store (anotherAttempt runtime t) := by
  have numbered : t.checkpointSequence = s.checkpointSequence := congrArg Prod.fst alike
  have observed : t.observations = s.observations := congrArg (fun c => c.2.1) alike
  refine ⟨Nat.le_refl t.iteration, .inl (fits_restored ?_ ?_ ?_)⟩
  · exact Nat.le_of_eq (numbered.trans sequence)
  · exact fun zero => observed.trans (unnumbered (numbered.symm.trans zero))
  · exact observed ▸ faithful

theorem requestRunRetry_preserves (stored : Stored store) :
    Preserves propose (requestRunRetry runtime) store := by
  refine inStore_call fun status _ responded => ?_
  cases responded
  split
  swap
  · exact ⟨stored, Nat.le_refl _, .refl _⟩
  refine preserves_status (restoreState_inStore propose ?_)
  have kept := stored.status .retrying
  obtain ⟨-, sequence, unnumbered, faithful⟩ := kept.restored runtime .retrying
  generalize { store with runStatus := RunStatus.retrying } = now at *
  generalize now.restored (initialState runtime .retrying) = s at *
  have persists (t : AgentRuntimeState) (alike : core t = core s) :
      Preserves propose (Services.persistCheckpoint (anotherAttempt runtime t) >>= fun _ => pure ())
        now := by
    have usable := anotherAttempt_usable runtime sequence unnumbered faithful alike
    refine usable.preserves (Q := fun _ _ => True) kept propose fun coherent => ?_
    exact conducts_bind (persistCheckpoint_serves (.refl coherent)) fun _ _ _ => trivial
  unfold Nodes.currentAction
  cases s.currentActionId with
  | none => exact persists s rfl
  | some actionId =>
    refine wp_bind (inStore_call fun found _ responded => ?_)
    cases responded
    cases now.actions.get? actionId with
    | none => exact ⟨kept, Nat.le_refl _, .refl _⟩
    | some action => exact persists _ (core_requeue s action)

end Requests

structure Left (node : Node) (s : AgentRuntimeState) (m : Mode) : Prop where
  coherent : Coherent { m with phase := .running } s
  found : node = .observe → (s.graphRoute = .ended ∨ s.graphRoute = .to .fail) ∨ Recovered m s
  phase : node ≠ .observe → m.phase = .running

def Session.Sound (session : Session) : Prop :=
  Conducts (fun s m => Left session.node s m) session.rest session.mode

section Sessions

variable (runtime : AgentRuntime) (run : Run) {s : AgentRuntimeState} {m : Mode}

theorem observe_leaves (coherent : Coherent m s)
    (resuming : m.phase = .resuming s.currentActionId none) :
    Conducts (fun s' m' => Left .observe s' m') (Nodes.observe runtime run s) m :=
  Program.wp_mono (observe_resumes runtime run coherent resuming) fun _ _ resumed =>
    ⟨resumed.coherent, fun _ => resumed.found, fun other => absurd rfl other⟩

theorem start_sound (entry : Entry) (started : Started s) :
    (Session.start runtime run entry s).Sound := by
  have coherent := Mode.restored_coherent started
  have observes {t : AgentRuntimeState} {m : Mode} (kept : Continues s (.restored s) t m) :
      Conducts (fun s' m' => Left .observe s' m') (Nodes.observe runtime run t) m := by
    refine observe_leaves runtime run kept.coherent ?_
    rw [action_of_frame kept.frame]
    exact kept.phase
  cases entry with
  | graph => exact observes (.refl coherent)
  | playbook result queued =>
    refine conducts_bind (saveState_serves ((Continues.refl coherent).same ?_)) fun _ _ => observes
    cases queued <;> rfl
  | action decision =>
    refine conducts_call trivial (fun _ => rfl) fun _ => ?_
    exact conducts_bind (saveState_serves ((Continues.refl coherent).same rfl)) fun _ _ => observes
  | ended status =>
    refine conducts_call trivial (fun _ => rfl) fun _ => ?_
    refine conducts_bind (saveState_serves ((Continues.refl coherent).same rfl)) fun t m kept => ?_
    exact ⟨kept.coherent.running rfl, fun _ => .inl (.inl rfl), fun other => absurd rfl other⟩

theorem next_ne_observe (node : Node) (route : AgentGraphRoute) :
    next node route ≠ some (.to .observe) := by
  unfold next
  intro leads
  cases node
  all_goals
    simp only [edges, Option.ite_none_right_eq_some, Option.some.injEq] at leads
    first
    | exact absurd leads (by decide)
    | obtain ⟨member, rfl⟩ := leads
      exact absurd member (by decide)

theorem leave_eq_at {node node' : Node} {s s' : AgentRuntimeState}
    (leaves : leave node s = .at node' s') : s' = s ∧ next node s.graphRoute = some (.to node') := by
  unfold leave at leaves
  cases leads : next node s.graphRoute with
  | none =>
    rw [leads] at leaves
    cases leaves
  | some route =>
    rw [leads] at leaves
    cases route with
    | ended => cases leaves
    | «to» target =>
      cases leaves
      exact ⟨rfl, rfl⟩

theorem enter_sound {session session' : Session} (left : Left session.node s session.mode)
    (entered : session.enter runtime run s = some session') :
    session'.Sound ∧ session'.mode = session.mode.resumed s ∧ session'.node ≠ .observe := by
  unfold Session.enter at entered
  cases leaves : leave session.node s with
  | «at» node' s' =>
    rw [leaves] at entered
    cases entered
    obtain ⟨rfl, leads⟩ := leave_eq_at leaves
    have later : node' ≠ .observe := fun same => next_ne_observe _ _ (same ▸ leads)
    have coherent : Coherent (session.mode.resumed s') s' :=
      ⟨left.coherent.sequence, left.coherent.observations, Nat.le_refl _,
        left.coherent.started, fun _ _ resuming => by cases resuming⟩
    refine ⟨?_, rfl, later⟩
    refine Program.wp_mono (body_visits runtime run later coherent rfl) fun t m visited => ?_
    exact ⟨visited.coherent.running rfl, fun same => absurd same later, fun _ => visited.phase⟩
  | ended s' =>
    rw [leaves] at entered
    cases entered
  | undeclared node route =>
    rw [leaves] at entered
    cases entered
  | raised node =>
    rw [leaves] at entered
    cases entered

end Sessions

structure Kept (s : System) : Prop where
  stored : Stored s.store
  live : ∀ session, s.live = some session → session.Sound ∧ Fits s.store session.mode

/-- The observations that a state anywhere holds, or an execution is about to add. -/
def System.heard (s : System) : List AgentObservation :=
  (s.store.saved.map AgentRuntimeState.observations).getD [] ++
    (s.store.latest.map fun checkpoint => checkpoint.statePayload.observations).getD [] ++
    (s.live.map fun session => session.mode.observations ++ match session.mode.phase with
      | .resuming _ (some actions) => actions.filterMap AgentAction.observation
      | .resuming _ none | .running => []).getD []

/-- A human gives no observation of an action of which a state already has one. -/
def Event.Careful (s : System) : Event → Prop
  | .outside (.resolve actionId (.observed _)) => ∀ item ∈ s.heard, item.actionId ≠ actionId
  | .outside (.resolve _ .retry) | .outside (.request _ _) | .outside (.reconnect _ _)
  | .outside (.status _) | .start _ | .proceed _ | .stop => True

section Run

variable (runtime : AgentRuntime) (run : Run)

theorem init_kept : Kept .init where
  stored := by
    refine ⟨fun actionId observation held => ?_, fun state held => ?_, fun checkpoint held => ?_⟩
    · cases held
    · cases held
    · cases held
  live := fun session held => by cases held

variable {s s' : System}

theorem Kept.grows (kept : Kept s) {store : RunStore} (stored : Stored store)
    (grows : Grows s.store store) : Kept { s with store } where
  stored := stored
  live := fun session held =>
    ⟨(kept.live session held).1, (kept.live session held).2.forget grows.sequence grows.forgets⟩

theorem Kept.forget (kept : Kept s) {store : RunStore} (saved : store.saved = s.store.saved)
    (latest : store.latest = s.store.latest) (forgets : s.store.Forgets store) :
    Kept { s with store } :=
  kept.grows (kept.stored.forget saved latest forgets)
    ⟨Nat.le_of_eq (sequence_of_latest latest).symm, forgets⟩

theorem Kept.observe (kept : Kept s) {actionId : String} {observation : AgentObservation}
    (own : observation.actionId = actionId) (unheard : ∀ item ∈ s.heard, item.actionId ≠ actionId) :
    Kept { s with
      store := s.store.update actionId (fun action => action.resolved observation) fun _ => rfl } := by
  have others {other : String} (distinct : other ≠ actionId) :=
    s.store.observed_update_ne (fun action => action.resolved observation) (fun _ => rfl) distinct
  have unaffected {observations : List AgentObservation} (faithful : Faithful s.store observations)
      (heard : ∀ item ∈ observations, item ∈ s.heard) :=
    faithful.unaffected (fun item member => unheard item (heard item member)) fun _ => others
  refine ⟨⟨fun other found held => ?_, fun state held => ?_, fun checkpoint held => ?_⟩,
    fun session held => ?_⟩
  · by_cases same : other = actionId
    · subst same
      have only := s.store.observed_update_self (fun action => action.resolved observation)
        (fun _ => rfl) (fun _ => rfl) held
      exact only ▸ own
    · rw [others same] at held
      exact kept.stored.rows other found held
  · obtain ⟨started, bounded, unnumbered, faithful⟩ := kept.stored.saved state held
    refine ⟨started, bounded, unnumbered, fun newest => unaffected (faithful newest) ?_⟩
    intro item member
    simp only [System.heard, show s.store.saved = some state from held, Option.map_some,
      Option.getD_some, List.mem_append]
    exact .inl (.inl member)
  · obtain ⟨started, positive, faithful⟩ := kept.stored.latest checkpoint held
    refine ⟨started, positive, unaffected faithful fun item member => ?_⟩
    simp only [System.heard, show s.store.latest = some checkpoint from held, Option.map_some,
      Option.getD_some, List.mem_append]
    exact .inl (.inr member)
  · obtain ⟨sound, fits⟩ := kept.live session held
    refine ⟨sound, fits.sequence, fits.unnumbered, unaffected fits.faithful ?_, ?_⟩
    · intro item member
      simp only [System.heard, show s.live = some session from held, Option.map_some,
        Option.getD_some, List.mem_append]
      exact .inr (.inl member)
    · intro named actions phase
      refine unaffected (fits.listed named actions phase) fun item member => ?_
      simp only [System.heard, show s.live = some session from held, Option.map_some,
        Option.getD_some, List.mem_append, phase]
      exact .inr (.inr member)

theorem outside_kept (kept : Kept s) {outside : Outside}
    (careful : (Event.outside outside).Careful s) {store : RunStore}
    (applied : outside.apply runtime s.store = some store) : Kept { s with store } := by
  have reopens (actionId : String) :
      Kept { s with store := s.store.update actionId .reopened AgentAction.reopened_id } :=
    kept.forget rfl rfl (RunStore.update_forgets fun _ _ held => by cases held)
  cases outside with
  | request made propose =>
    obtain ⟨⟨result, store⟩, ran, rfl⟩ := Option.map_eq_some_iff.mp applied
    have preserves : Preserves propose (made.task runtime) s.store := by
      cases made with
      | cancel => exact cancelRun_preserves runtime propose kept.stored
      | retry => exact requestRunRetry_preserves runtime propose kept.stored
      | approve approvalId => exact resumeAfterApproval_preserves propose kept.stored approvalId
      | reject approvalId => exact rejectApproval_preserves propose kept.stored approvalId
    obtain ⟨returned, raised⟩ :=
      Program.runIn_of_wp (fun _ _ _ _ responded => responded) preserves ran
    cases result with
    | none => exact kept.grows (raised rfl).1 (raised rfl).2
    | some value => exact kept.grows (returned value rfl).1 (returned value rfl).2
  | resolve actionId resolution =>
    unfold Outside.apply RunStore.resolve at applied
    dsimp only at applied
    split at applied
    · cases resolution with
      | retry =>
        cases applied
        exact reopens actionId
      | observed observation =>
        dsimp only at applied
        split at applied
        · rename_i own
          cases applied
          exact kept.observe own careful
        · cases applied
    · cases applied
  | reconnect actionId connectorId =>
    unfold Outside.apply RunStore.retryAfterReconnect at applied
    dsimp only at applied
    split at applied
    · cases applied
      exact reopens actionId
    · cases applied
  | status now =>
    cases applied
    exact kept.forget rfl rfl fun _ _ held => held

theorem proceed_kept {store store' : RunStore} {session : Session} {live : Option Session}
    {propose : Environment} (stored : Stored store) (sound : session.Sound)
    (fits : Fits store session.mode)
    (proceeded : session.proceed runtime run store propose = some (live, store')) :
    Kept { store := store', live } := by
  obtain ⟨node, rest, mode⟩ := session
  unfold Session.proceed at proceeded
  cases rest with
  | pure state =>
    cases proceeded
    refine ⟨stored, fun next entered => ?_⟩
    obtain ⟨conducts, resumed, -⟩ := enter_sound runtime run sound entered
    refine ⟨conducts, ?_⟩
    rw [resumed]
    exact ⟨fits.sequence, fits.unnumbered, fits.faithful, fun _ _ phase => by cases phase⟩
  | raise =>
    cases proceeded
    exact ⟨stored, fun session held => by cases held⟩
  | call c next =>
    obtain ⟨⟨answer, store⟩, responded, same⟩ := Option.bind_eq_some_iff.mp proceeded
    cases same
    obtain ⟨stored, fits⟩ := respond_stored stored fits sound.1 responded
    refine ⟨stored, fun session held => ?_⟩
    cases held
    exact ⟨sound.2 answer _ rfl, fits⟩

theorem step_kept (kept : Kept s) {event : Event} (careful : event.Careful s)
    (stepped : s.step runtime run event = some s') : Kept s' := by
  cases event with
  | start entry =>
    cases live : s.live with
    | some session => simp only [System.step, live] at stepped; cases stepped
    | none =>
      simp only [System.step, live] at stepped
      cases stepped
      obtain ⟨started, sequence, unnumbered, faithful⟩ :=
        kept.stored.restored runtime s.store.runStatus
      refine ⟨kept.stored, fun session held => ?_⟩
      cases held
      exact ⟨start_sound runtime run entry started,
        fits_restored (Nat.le_of_eq sequence) unnumbered faithful⟩
  | proceed propose =>
    cases live : s.live with
    | none => simp only [System.step, live] at stepped; cases stepped
    | some session =>
      simp only [System.step, live] at stepped
      obtain ⟨⟨next, store⟩, proceeded, same⟩ := Option.bind_eq_some_iff.mp stepped
      cases same
      obtain ⟨sound, fits⟩ := kept.live session live
      exact proceed_kept runtime run kept.stored sound fits proceeded
  | stop =>
    obtain ⟨session, held, rfl⟩ := Option.map_eq_some_iff.mp stepped
    exact ⟨kept.stored, fun session held => by cases held⟩
  | outside outside =>
    obtain ⟨store, applied, rfl⟩ := Option.map_eq_some_iff.mp stepped
    exact outside_kept runtime kept careful applied

end Run

end Taroai.Agent
