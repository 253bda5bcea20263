import Taroai.Agent.Restart
import Taroai.Agent.Routes
import Mathlib.Data.List.Count

/-! Crash recovery: whenever an execution that starts again comes to take up the actions, its state
has every committed observation once and the largest sequence, whatever write the run was cut off
after. -/

namespace Taroai.Agent

open Program (wp wp_and wp_bind wp_mono wp_restrict wp_weaken runIn_invariant)

section Answers

variable {α β : Type} {m m₀ : Mode} {s s₀ : AgentRuntimeState}

/-- What an execution is told that nobody disturbs: its questions are answered as the environment
proposes, and the store takes its next checkpoint. -/
def Told (propose : Environment) (m : Mode) : (c : Call) → c.Answer → Prop
  | .ask question, answer => answer = propose (.ask question)
  | .latestCheckpoint, latest => (latest.map AgentCheckpoint.sequence).getD 0 = m.sequence
  | .createCheckpoint sequence _, taken => sequence = m.sequence + 1 → taken = true
  | _, _ => True

def answering (propose : Environment) : Protocol Call Call.Answer Mode where
  legal := Mode.Allows
  answers m c a m' := m' = m.after c a ∧ Told propose m c a

abbrev Succeeds (propose : Environment) (Q : α → Mode → Prop) (p : Task α) (m : Mode) : Prop :=
  wp (answering propose) Q (fun _ => False) p m

variable {propose : Environment} {Q : β → Mode → Prop}

theorem Conducts.succeeds {Q : α → Mode → Prop} {p : Task α} (conducts : Conducts Q p m)
    (completes : Completes (fun _ => True) p) : Succeeds propose Q p m :=
  wp_weaken (wp_and (wp_restrict (P := conduct) (fun _ _ legal => legal)
    (fun _ _ _ _ answered => answered.1) conducts) completes) (fun _ _ both => both.1)
    fun _ both => both.2

theorem succeeds_bind {P : α → Mode → Prop} {p : Task α} {f : α → Task β}
    (first : Succeeds propose P p m) (each : ∀ a m', P a m' → Succeeds propose Q (f a) m') :
    Succeeds propose Q (p >>= f) m :=
  wp_bind (wp_mono first each)

theorem succeeds_call {c : Call} {f : c.Answer → Task β} (legal : m.Allows c)
    (each : ∀ a, Told propose m c a → Succeeds propose Q (f a) (m.after c a)) :
    Succeeds propose Q (call c >>= f) m := by
  refine ⟨legal, fun a m' answered => ?_⟩
  obtain ⟨rfl, told⟩ := answered
  exact each a told

theorem succeeds_ask {question : Question} {f : question.Answer → Task β}
    (stays : m.after (.ask question) (propose (.ask question)) = m) (legal : m.Allows (.ask question))
    (next : Succeeds propose Q (f (propose (.ask question))) m) :
    Succeeds propose Q (ask question >>= f) m := by
  refine succeeds_call legal fun a told => ?_
  cases told
  rw [stays]
  exact next

section Services

theorem saveState_succeeds (before : Continues s₀ m₀ s m) :
    Succeeds propose (fun s' m' => m' = m ∧ Continues s₀ m₀ s' m) (Services.saveState s) m :=
  (saveState_keeps before).succeeds (saveState_completes s)

theorem reported_succeeds {ε γ : Type} (before : Continues s₀ m₀ s m) (report : Report ε γ) :
    Succeeds propose (fun result m' => result.1 = report.result ∧ Continues s₀ m₀ result.2 m')
      (Services.reported report s) m := by
  refine (reported_returns before report).succeeds ?_
  refine Completes.bind (P := fun _ => True) ?_ fun _ _ => trivial
  exact Program.wp_times (I := fun _ _ => True) trivial fun t _ _ => saveState_completes t

theorem persistCheckpoint_succeeds {t : AgentRuntimeState} (before : Continues s₀ m₀ s m)
    (alike : frame t = frame s) (numbered : t.checkpointSequence = s.checkpointSequence)
    (adopts : Adopts m t) :
    Succeeds propose (fun s' m' => Continues s₀ m₀ s' m' ∧ s'.observations = t.observations)
      (Services.persistCheckpoint t) m := by
  have sequence : t.checkpointSequence = m.sequence := numbered.trans before.coherent.sequence
  have next : Succeeds propose (fun next m' => m' = m ∧ next = m.sequence + 1)
      (Services.nextCheckpointSequence t) m := by
    unfold Services.nextCheckpointSequence
    split
    · exact ⟨rfl, by rw [sequence]⟩
    · refine succeeds_call trivial fun latest told => ⟨rfl, ?_⟩
      rw [← told]
  refine succeeds_bind next ?_
  rintro _ m' ⟨rfl, rfl⟩
  have stored := before.stored { t with checkpointSequence := m'.sequence + 1 } alike _ rfl
  refine succeeds_call ⟨adopts, stored.coherent, fun _ => rfl⟩ fun taken told => ?_
  obtain rfl : taken = true := told rfl
  refine wp_mono (saveState_succeeds stored) ?_
  rintro s' _ ⟨rfl, saved⟩
  exact ⟨saved, saved.coherent.observations⟩

structure Loads (propose : Environment) : Prop where
  allowed : (propose (.ask .runtimeExecution)).allowed = true
  context : (propose (.ask .agentContext)).result = .ok ()
  refs : (propose (.ask .explicitSkillRefs)).result = .ok ()

theorem loadResources_loads (before : Continues s₀ m₀ s m) (loads : Loads propose) :
    Succeeds propose (fun result m' => result.1 = .ok () ∧ Continues s₀ m₀ result.2 m')
      (Services.loadResources s) m := by
  refine succeeds_ask rfl trivial (succeeds_bind (reported_succeeds before _) ?_)
  rintro ⟨context, t⟩ m' ⟨loaded, kept⟩
  obtain rfl : context = .ok () := loaded.trans loads.context
  refine succeeds_ask rfl trivial (wp_mono (reported_succeeds kept _) ?_)
  exact fun result m'' ⟨loaded, kept⟩ => ⟨loaded.trans loads.refs, kept⟩

theorem resumeActions_completes (s : AgentRuntimeState) (actions : List AgentAction) :
    Completes (fun _ => True) (Nodes.resumeActions s actions) := by
  unfold Nodes.resumeActions
  split
  · refine Completes.bind (P := fun _ => True) ?_ fun _ _ => trivial
    exact Completes.call fun _ => saveState_completes _
  split
  · exact Completes.bind (saveState_completes _) fun _ _ => trivial
  · split <;> exact trivial

theorem recoverActions_succeeds (before : Continues s₀ m₀ s m) {named : Option String}
    (phase : m₀.phase = .resuming named none) :
    Succeeds propose (fun s' m' => Coherent { m' with phase := .running } s' ∧ Recovered m' s')
      (Nodes.recoverActions s) m := by
  refine succeeds_call trivial fun _ _ => ?_
  refine succeeds_call trivial fun actions _ => ?_
  have listing := before.list phase actions
  have goesOn {t : AgentRuntimeState} {m' : Mode}
      (kept : Continues s₀ { m₀ with phase := .resuming named (some actions) } t m')
      (complete : Nodes.recoveredObservations t.observations actions = []) :
      Succeeds propose (fun s' m' => Coherent { m' with phase := .running } s' ∧ Recovered m' s')
        (Nodes.resumeActions t actions) m' := by
    refine wp_mono ((resumeActions_resumes kept rfl complete).succeeds
      (resumeActions_completes t actions)) ?_
    exact fun _ _ ⟨running, found, _⟩ => ⟨running, found⟩
  refine succeeds_bind (P := fun t m' =>
    Continues s₀ { m₀ with phase := .resuming named (some actions) } t m' ∧
      Nodes.recoveredObservations t.observations actions = []) ?_
    fun t m' ⟨kept, complete⟩ => goesOn kept complete
  unfold Nodes.adoptObservations
  dsimp only
  split
  · rename_i none
    exact ⟨listing, none⟩
  · refine wp_mono (persistCheckpoint_succeeds listing rfl rfl
      (adopted_adopts listing (listing.phase.trans rfl))) ?_
    rintro t m' ⟨stored, same⟩
    refine ⟨stored, ?_⟩
    rw [same]
    exact recovered_complete s.observations actions

end Services

end Answers

section Recovering

variable {store store' : RunStore} {m : Mode} (runtime : AgentRuntime) (run : Run)

/-- How the mode of an execution that starts again stands to a store that no one else writes to. -/
structure Abreast (store : RunStore) (m : Mode) : Prop where
  stored : Stored store
  fits : Fits store m
  current : m.sequence = store.sequence
  resuming : m.phase ≠ .running
  covers : ∀ named actions, m.phase = .resuming named (some actions) →
    ∀ actionId observation, store.observed actionId = some observation →
      observation ∈ actions.filterMap AgentAction.observation

theorem listed_covers {actions : List AgentAction} (order : actions.Perm store.actions.entries)
    {actionId : String} {observation : AgentObservation}
    (held : store.observed actionId = some observation) :
    observation ∈ actions.filterMap AgentAction.observation := by
  obtain ⟨row, stored, same⟩ := Option.bind_eq_some_iff.mp held
  exact List.mem_filterMap.mpr ⟨row, order.symm.subset (Table.mem_of_get? stored), same⟩

theorem phase_list {named : Option String} {actions listed : List AgentAction}
    (phase : (m.list actions).phase = .resuming named (some listed)) : listed = actions := by
  unfold Mode.list at phase
  split at phase
  · cases phase
    rfl
  · rename_i running
    rw [running] at phase
    cases phase

theorem Abreast.respond {c : Call} {proposed a : c.Answer} (abreast : Abreast store m)
    (legal : m.Allows c) (responded : store.respond c proposed = some (a, store')) :
    Abreast store' (m.after c a) := by
  obtain ⟨stored, fits⟩ := respond_stored abreast.stored abreast.fits legal responded
  have grows := respond_grows abreast.resuming legal responded
  have resuming := after_resuming abreast.resuming a
  have covers {m' : Mode} (phase : m'.phase = m.phase) :
      ∀ named actions, m'.phase = .resuming named (some actions) →
        ∀ actionId observation, store'.observed actionId = some observation →
          observation ∈ actions.filterMap AgentAction.observation :=
    fun named actions listed actionId observation held =>
      abreast.covers named actions (phase ▸ listed) actionId observation
        (grows.forgets _ _ held)
  cases records : c.records with
  | false =>
    refine ⟨stored, fits, ?_, resuming, ?_⟩
    · rw [after_quiet records, sequence_of_latest (respond_quiet records legal responded).2.1]
      exact abreast.current
    · cases c with
      | listActions =>
        unfold RunStore.respond at responded
        dsimp only at responded
        split at responded
        · rename_i order
          cases responded
          intro named actions phase actionId observation held
          rw [phase_list phase]
          exact listed_covers order held
        · cases responded
      | createCycle cycleId iteration =>
        refine covers ?_
        change Mode.phase (if _ then _ else _) = _
        split <;> rfl
      | claimAction actionId =>
        refine covers ?_
        simp only [Mode.after]
        split <;> rfl
      | ask question => cases question <;> exact covers rfl
      | saveState state => cases records
      | createCheckpoint sequence state => cases records
      | commitObservation actionId generation observation state => cases records
      | _ => exact covers rfl
  | true =>
    cases c with
    | saveState state =>
      cases responded
      exact ⟨stored, fits, abreast.current, resuming, covers rfl⟩
    | createCheckpoint sequence state =>
      unfold RunStore.respond at responded
      dsimp only at responded
      split at responded
      · cases responded
        exact ⟨stored, fits, rfl, resuming, covers rfl⟩
      · cases responded
        exact ⟨stored, fits, abreast.current, resuming, covers rfl⟩
    | commitObservation actionId generation observation state =>
      exact absurd legal.1 abreast.resuming
    | _ => cases records

/-- What an execution that is not stopped early comes to, from the state it was restored with. -/
theorem observe_recovers {propose : Environment} (loads : Loads propose) {status : RunStatus}
    (stored : Stored store) (runs : store.runStatus.terminal = false)
    {result : Option AgentRuntimeState}
    (recovered : (Nodes.observe runtime run
      (store.restored (initialState runtime status))).runIn RunStore.respond propose store =
        some (result, store')) :
    ∃ s m, result = some s ∧ Abreast store' m ∧ store'.Forgets store ∧
      Coherent { m with phase := .running } s ∧ Recovered m s := by
  obtain ⟨started, sequence, unnumbered, faithful⟩ := stored.restored runtime status
  generalize store.restored (initialState runtime status) = s₀ at *
  have checked : (if store.runStatus.terminal then _ else _ : Task AgentRuntimeState).runIn
      RunStore.respond propose store = some (result, store') := recovered
  rw [runs, if_neg Bool.false_ne_true] at checked
  have init : Abreast store (.restored s₀) :=
    ⟨stored, fits_restored (Nat.le_of_eq sequence) unnumbered faithful, sequence,
      Mode.restored_resuming s₀, fun _ _ phase => by cases phase⟩
  have each : ∀ m now c a next, Abreast now m ∧ now.Forgets store →
      (answering propose).legal m c → now.respond c (propose c) = some (a, next) →
        ∃ m', (answering propose).answers m c a m' ∧ Abreast next m' ∧ next.Forgets store := by
    rintro m now c a next ⟨abreast, retains⟩ legal responded
    have still : next.Forgets store := fun _ _ held =>
      respond_retains abreast.resuming legal responded _ _ (retains _ _ held)
    refine ⟨m.after c a, ⟨rfl, ?_⟩, abreast.respond legal responded, still⟩
    cases c with
    | ask question =>
      cases responded
      rfl
    | latestCheckpoint =>
      cases responded
      exact abreast.current.symm
    | createCheckpoint sequence state =>
      intro following
      unfold RunStore.respond at responded
      dsimp only at responded
      rw [following, abreast.current, if_pos rfl] at responded
      cases responded
      rfl
    | _ => trivial
  have coherent := Mode.restored_coherent started
  refine Exists.elim (runIn_invariant (Q := fun s m =>
    Coherent { m with phase := .running } s ∧ Recovered m s) (R := fun _ => False) each ?_
      ⟨init, .refl _⟩ checked) fun m ⟨⟨abreast, retains⟩, returned, raised⟩ => ?_
  swap
  · cases result with
    | none => exact (raised rfl).elim
    | some s => exact ⟨s, m, rfl, abreast, retains, returned s rfl⟩
  refine succeeds_call trivial fun _ _ => ?_
  have limited : Coherent (.restored s₀) (Nodes.withLimits runtime s₀) := by
    obtain ⟨sequence, observations, bound, started, resumes⟩ := coherent
    exact ⟨sequence, observations, bound, started, resumes⟩
  refine succeeds_bind (saveState_succeeds (.refl limited)) ?_
  rintro t _ ⟨rfl, kept⟩
  refine succeeds_ask rfl trivial ?_
  rw [loads.allowed, if_pos rfl]
  refine succeeds_bind (loadResources_loads kept loads) ?_
  rintro ⟨loaded, u⟩ m ⟨rfl, kept⟩
  have announced : Completes (fun _ => True) (Nodes.announceConversation run u) := by
    unfold Nodes.announceConversation
    split
    · exact saveState_completes _
    · exact trivial
  refine succeeds_bind ((announceConversation_serves run kept).succeeds announced) ?_
  exact fun v m kept => recoverActions_succeeds kept rfl

/-- `_restore_state`, and the node that follows it. -/
def restart (status : RunStatus) : Task AgentRuntimeState := do
  let state ← Services.restoreState (initialState runtime status)
  Nodes.observe runtime run state

theorem complete_of_recovered {s : AgentRuntimeState} (abreast : Abreast store' m)
    (retains : store'.Forgets store) (coherent : Coherent { m with phase := .running } s)
    (recovered : Recovered m s) {row : AgentAction} (member : row ∈ store.actions.entries)
    {observation : AgentObservation} (committed : row.observation = some observation) :
    s.observations.count observation = 1 := by
  obtain ⟨named, actions, phase, complete⟩ := recovered.complete
  have held : store'.observed row.id = some observation := by
    refine retains _ _ ?_
    rw [RunStore.observed, Table.get?_of_mem member]
    exact committed
  have observations : s.observations = m.observations := coherent.observations
  have faithful : Faithful store' s.observations := observations ▸ abreast.fits.faithful
  have known : observation.actionId ∈ s.observations.map AgentObservation.actionId := by
    have listed := abreast.covers named actions phase row.id observation held
    have absent := List.filter_eq_nil_iff.mp complete observation listed
    simpa using absent
  obtain ⟨found, present, same⟩ := List.mem_map.mp known
  have own : observation.actionId = row.id := abreast.stored.rows _ _ held
  have equal : observation = found := by
    refine faithful.agrees found present observation ?_
    rw [same, own]
    exact held
  refine List.count_eq_one_of_mem ?_ (equal ▸ present)
  exact List.Nodup.of_map _ faithful.distinct

end Recovering

namespace System

variable (runtime : AgentRuntime) (run : Run)

theorem run_kept {s : System} {schedule : List Event}
    (careful : Machine.Conforms (step runtime run) (fun s event => event.Careful s) init schedule)
    (ran : Machine.run (step runtime run) init schedule = some s) : Kept s :=
  Machine.invariant_conforms (I := Kept)
    (fun _ _ _ kept careful stepped => step_kept runtime run kept careful stepped) init_kept
    careful ran

/-- After any run of executions that were cut off anywhere, and of requests: an execution that
starts again, and is not stopped before it takes up the actions, has each committed observation
once and the largest sequence, and the store takes its next checkpoint. -/
theorem observations_recovered {s : System} {schedule : List Event}
    (careful : Machine.Conforms (step runtime run) (fun s event => event.Careful s) init schedule)
    (ran : Machine.run (step runtime run) init schedule = some s)
    (runs : s.store.runStatus.terminal = false) {propose : Environment} (loads : Loads propose)
    {result : Option AgentRuntimeState} {store : RunStore}
    (restarted : (restart runtime run s.store.runStatus).runIn RunStore.respond propose s.store =
      some (result, store)) :
    ∃ state, result = some state ∧
      (∀ row ∈ s.store.actions.entries, ∀ observation, row.observation = some observation →
        state.observations.count observation = 1) ∧
      state.checkpointSequence = store.sequence ∧
      ∀ payload taken, ∃ store',
        store.respond (.createCheckpoint (state.checkpointSequence + 1) payload) taken =
          some (true, store') := by
  have kept := run_kept runtime run careful ran
  have observed : (Nodes.observe runtime run
      (s.store.restored (initialState runtime s.store.runStatus))).runIn RunStore.respond propose
        s.store = some (result, store) := by
    rw [← restarted, restart, Program.runIn_bind, RunStore.restoreState_runIn]
    rfl
  obtain ⟨state, m, rfl, abreast, retains, coherent, recovered⟩ :=
    observe_recovers runtime run loads kept.stored runs observed
  have newest : state.checkpointSequence = store.sequence :=
    coherent.sequence.trans abreast.current
  refine ⟨state, rfl, fun row member observation committed => ?_, newest, fun payload taken => ?_⟩
  · exact complete_of_recovered abreast retains coherent recovered member committed
  · refine ⟨store.checkpoint (state.checkpointSequence + 1) payload, ?_⟩
    unfold RunStore.respond
    dsimp only
    rw [newest, if_pos rfl]

def searching : Environment
  | .ask .model =>
    { result := .ok (some { decision := { kind := .action, toolName := some "search" } }) }
  | c => smooth c

def expiring : Environment
  | .recoverExpiredActions => ["id"]
  | c => smooth c

def listing (actions : List AgentAction) : Environment
  | .listActions => actions
  | c => smooth c

def chat : Run := { mode := .chat, hasThread := true }

def committedSchedule : List Event :=
  .start .graph :: (List.replicate 38 (.proceed searching) ++ [.stop])

def committedRun : System :=
  Machine.final (step limits chat) init committedSchedule (by decide +kernel)

theorem listing_loads (actions : List AgentAction) : Loads (listing actions) := ⟨rfl, rfl, rfl⟩

theorem careful_of_plain {schedule : List Event}
    (plain : ∀ event ∈ schedule, ∀ s, Event.Careful s event) (runtime : AgentRuntime) (run : Run) :
    Machine.Conforms (step runtime run) (fun s event => event.Careful s) init schedule :=
  (Machine.Conforms.and_labels (Machine.along_true _ _ _) plain).mono fun s _ here => here.2 s

/-- The observation that was committed last is there after the crash. -/
theorem observation_after_commit : ∃ state store,
    (restart limits chat committedRun.store.runStatus).runIn RunStore.respond
      (listing committedRun.store.actions.entries) committedRun.store = some (some state, store) ∧
    ∀ row ∈ committedRun.store.actions.entries, ∀ observation, row.observation = some observation →
      state.observations.count observation = 1 := by
  have ran := Machine.run_final (step limits chat) init committedSchedule (by decide +kernel)
  have answered : ((restart limits chat committedRun.store.runStatus).runIn RunStore.respond
      (listing committedRun.store.actions.entries) committedRun.store).isSome = true := by
    decide +kernel
  obtain ⟨⟨result, store⟩, restarted⟩ := Option.isSome_iff_exists.mp answered
  have plain : ∀ event ∈ committedSchedule, ∀ s, Event.Careful s event := by
    intro event among s
    simp only [committedSchedule, List.mem_cons, List.mem_append, List.mem_replicate] at among
    rcases among with rfl | ⟨-, rfl⟩ | rfl | none
    · trivial
    · trivial
    · trivial
    · cases none
  obtain ⟨state, rfl, complete, -⟩ := observations_recovered limits chat
    (careful_of_plain plain limits chat) ran (by decide +kernel) (listing_loads _) restarted
  exact ⟨state, store, restarted, complete⟩

def told : AgentObservation where
  actionId := "id"
  success := true
  output := {}
  error := none
  safeError := none
  failureClass := none

/-- An execution dies while its tool runs, the next one finds the lease expired and dies, and a
human tells what the tool did; then the run is cancelled. -/
def cancelledSchedule : List Event :=
  .start .graph :: (List.replicate 31 (.proceed searching) ++ .stop :: .start .graph ::
    (List.replicate 8 (.proceed expiring) ++
      [.stop, .outside (.resolve "id" (.observed told)), .outside (.status .cancelled)]))

def cancelledRun : System :=
  Machine.final (step limits chat) init cancelledSchedule (by decide +kernel)

/-- An execution of a cancelled run stops before it takes up the actions. -/
theorem cancelled_before_recovery : ¬ ∀ (runtime : AgentRuntime) (run : Run) (schedule : List Event)
    (s : System), Machine.run (step runtime run) init schedule = some s →
      ∀ (propose : Environment) (result : Option AgentRuntimeState) (store : RunStore),
        (restart runtime run s.store.runStatus).runIn RunStore.respond propose s.store =
          some (result, store) →
        ∃ state, result = some state ∧ ∀ row ∈ s.store.actions.entries, ∀ observation,
          row.observation = some observation → state.observations.count observation = 1 := by
  intro recovered
  have ran := Machine.run_final (step limits chat) init cancelledSchedule (by decide +kernel)
  have answered : ((restart limits chat cancelledRun.store.runStatus).runIn RunStore.respond smooth
      cancelledRun.store).isSome = true := by decide +kernel
  have stopped : ((restart limits chat cancelledRun.store.runStatus).runIn RunStore.respond smooth
      cancelledRun.store).all fun ended => ended.1.all fun state => state.observations = [] := by
    decide +kernel
  obtain ⟨row, member, held⟩ : ∃ row ∈ cancelledRun.store.actions.entries,
      row.observation = some told := by decide +kernel
  obtain ⟨⟨result, store⟩, restarted⟩ := Option.isSome_iff_exists.mp answered
  obtain ⟨state, rfl, complete⟩ :=
    recovered limits chat cancelledSchedule cancelledRun ran smooth result store restarted
  have nothing : state.observations = [] := by
    rw [restarted] at stopped
    simpa using stopped
  have once := complete row member told held
  rw [nothing] at once
  cases once

end System

end Taroai.Agent
