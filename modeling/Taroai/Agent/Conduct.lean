import Taroai.Agent.Graph

/-! How an execution conducts itself towards the store, whatever it is answered. The protocol
keeps what the execution knows: a bound on the iterations it has stored or taken up, the
checkpoint sequence and the observations of its state, and the claim it holds for a tool that it
has not invoked. A state that it writes carries that knowledge, a cycle that it stores has a new
iteration, a tool is invoked once under a claim, and a commit adds its observation. Before the
actions are taken up, the execution only writes back the iteration it was restored with. -/

namespace Taroai.Agent

open Program (wp wp_bind wp_mono wp_pure wp_times)

/-- While it resumes, an execution has the iteration and the current action it was restored with,
and the list of the actions once it has read it. -/
inductive Phase where
  | resuming (named : Option String) (listed : Option (List AgentAction))
  | running

structure Mode where
  bound : Nat
  sequence : Nat
  observations : List AgentObservation
  phase : Phase
  held : Option (String × Nat) := none

def budget (s : AgentRuntimeState) : Nat × Nat × Nat × Nat × Nat :=
  (s.iteration, s.runtimeMetadata.attemptStartIteration, s.maxIterations, s.maxRepairs,
    s.repairAttempts)

def frame (s : AgentRuntimeState) : Option String × Nat × Nat × Nat × Nat × Nat :=
  (s.currentActionId, budget s)

def core (s : AgentRuntimeState) :
    Nat × List AgentObservation × Option String × Nat × Nat × Nat × Nat × Nat :=
  (s.checkpointSequence, s.observations, frame s)

structure Coherent (m : Mode) (s : AgentRuntimeState) : Prop where
  sequence : s.checkpointSequence = m.sequence
  observations : s.observations = m.observations
  bound : m.bound ≤ s.iteration
  started : s.runtimeMetadata.attemptStartIteration ≤ s.iteration
  resuming : ∀ named listed, m.phase = .resuming named listed →
    s.iteration = m.bound ∧ s.currentActionId = named

section Frame

variable {m : Mode} {s s' : AgentRuntimeState}

theorem action_of_frame (alike : frame s' = frame s) : s'.currentActionId = s.currentActionId :=
  congrArg Prod.fst alike

theorem budget_of_frame (alike : frame s' = frame s) : budget s' = budget s :=
  congrArg Prod.snd alike

theorem iteration_of_budget (alike : budget s' = budget s) : s'.iteration = s.iteration :=
  congrArg Prod.fst alike

theorem attempt_of_budget (alike : budget s' = budget s) :
    s'.runtimeMetadata.attemptStartIteration = s.runtimeMetadata.attemptStartIteration :=
  congrArg (fun counters => counters.2.1) alike

theorem Coherent.of_frame {m' : Mode} (coherent : Coherent m s) (alike : frame s' = frame s)
    (phase : m'.phase = m.phase) (bound : m'.bound = m.bound)
    (sequence : s'.checkpointSequence = m'.sequence)
    (observations : s'.observations = m'.observations) : Coherent m' s' := by
  have counters := budget_of_frame alike
  refine ⟨sequence, observations, ?_, ?_, ?_⟩
  · rw [bound, iteration_of_budget counters]
    exact coherent.bound
  · rw [attempt_of_budget counters, iteration_of_budget counters]
    exact coherent.started
  · rw [phase, bound, iteration_of_budget counters, action_of_frame alike]
    exact coherent.resuming

theorem Coherent.same (coherent : Coherent m s) (alike : core s' = core s) : Coherent m s' := by
  refine coherent.of_frame (congrArg (fun c => c.2.2) alike) rfl rfl ?_ ?_
  · exact (congrArg Prod.fst alike).trans coherent.sequence
  · exact (congrArg (fun c => c.2.1) alike).trans coherent.observations

end Frame

/-- The observations that a checkpoint may add: those of listed actions that the state lacks. -/
def Adopts (m : Mode) (s : AgentRuntimeState) : Prop :=
  s.observations = m.observations ∨
    ∃ named actions, m.phase = .resuming named (some actions) ∧
      s.observations = m.observations ++ Nodes.recoveredObservations m.observations actions

namespace Mode

def stored (m : Mode) (sequence : Nat) (s : AgentRuntimeState) : Mode :=
  { m with sequence := sequence, observations := s.observations }

def list (m : Mode) (actions : List AgentAction) : Mode :=
  match m.phase with
  | .resuming named _ => { m with phase := .resuming named (some actions) }
  | .running => m

def Allows (m : Mode) : Call → Prop
  | .saveState s => Coherent m s
  | .createCheckpoint sequence s =>
    Adopts m s ∧ Coherent (m.stored sequence s) s ∧ (0 < m.sequence → sequence = m.sequence + 1)
  | .createCycle _ iteration => m.phase = .running ∧ m.bound < iteration
  | .createAction action =>
    m.phase = .running ∧ action.status = .pending ∧ action.observation = none
  | .claimAction _ => m.phase = .running
  | .commitObservation actionId _ observation s =>
    m.phase = .running ∧ observation.actionId = actionId ∧ m.bound ≤ s.iteration ∧
      s.runtimeMetadata.attemptStartIteration ≤ s.iteration ∧ s.observations =
        m.observations.filter (fun item => item.actionId ≠ actionId) ++ [observation]
  | .cancelAction actionId =>
    ∀ named listed, m.phase = .resuming named listed → named = some actionId
  | .pauseForReconnect _ _ => m.phase = .running
  | .ask (.tool claimed _) => m.held = some (claimed.id, claimed.leaseGeneration)
  | .getRun | .isCancelled | .updateRunStatus _ | .loadState | .latestCheckpoint
  | .recoverExpiredActions | .listActions | .getAction _ | .renewLease _ _
  | .updateApprovalExecution _ _ | .ask _ => True

def after (m : Mode) : (call : Call) → call.Answer → Mode
  | .createCheckpoint sequence s, taken => if taken then m.stored sequence s else m
  | .createCycle _ iteration, taken => if taken then { m with bound := iteration } else m
  | .listActions, actions => m.list actions
  | .claimAction _, claimed =>
    match claimed with
    | some action => { m with held := some (action.id, action.leaseGeneration) }
    | none => m
  | .commitObservation _ _ _ s, taken =>
    match taken with
    | some sequence => m.stored sequence s
    | none => m
  | .ask (.tool _ _), _ => { m with held := none }
  | .getRun, _ | .isCancelled, _ | .updateRunStatus _, _ | .loadState, _ | .saveState _, _
  | .latestCheckpoint, _ | .recoverExpiredActions, _ | .createAction _, _ | .getAction _, _
  | .renewLease _ _, _ | .cancelAction _, _ | .pauseForReconnect _ _, _
  | .updateApprovalExecution _ _, _ | .ask _, _ => m

end Mode

def conduct : Protocol Call Call.Answer Mode where
  legal := Mode.Allows
  answers m c a m' := m' = m.after c a

/-- The program keeps to the protocol, and `Q` holds of what it returns. -/
abbrev Conducts {α : Type} (Q : α → Mode → Prop) (p : Task α) (m : Mode) : Prop :=
  wp conduct Q (fun _ => True) p m

/-- What holds all through a service that began with the state and the mode. -/
structure Continues (s₀ : AgentRuntimeState) (m₀ : Mode) (s : AgentRuntimeState) (m : Mode) :
    Prop where
  coherent : Coherent m s
  phase : m.phase = m₀.phase
  bound : m.bound = m₀.bound
  held : m.held = m₀.held
  frame : frame s = frame s₀

section Rules

variable {α β : Type} {Q : β → Mode → Prop} {m m₀ : Mode} {s s' s₀ : AgentRuntimeState}

theorem Continues.refl (coherent : Coherent m s) : Continues s m s m :=
  ⟨coherent, rfl, rfl, rfl, rfl⟩

theorem Continues.same (before : Continues s₀ m₀ s m) (alike : core s' = core s) :
    Continues s₀ m₀ s' m where
  coherent := before.coherent.same alike
  phase := before.phase
  bound := before.bound
  held := before.held
  frame := (congrArg (fun c => c.2.2) alike).trans before.frame

theorem Continues.stored (before : Continues s₀ m₀ s m) (s' : AgentRuntimeState)
    (alike : Agent.frame s' = Agent.frame s) (sequence : Nat)
    (numbered : s'.checkpointSequence = sequence) :
    Continues s₀ m₀ s' (m.stored sequence s') where
  coherent := before.coherent.of_frame alike rfl rfl numbered rfl
  phase := before.phase
  bound := before.bound
  held := before.held
  frame := alike.trans before.frame

theorem conducts_step {c : Call} {f : c.Answer → Task β} (legal : m.Allows c)
    (each : ∀ a, Conducts Q (f a) (m.after c a)) : Conducts Q (call c >>= f) m := by
  refine ⟨legal, fun a m' answered => ?_⟩
  cases answered
  exact each a

theorem conducts_call {c : Call} {f : c.Answer → Task β} (legal : m.Allows c)
    (stays : ∀ a, m.after c a = m) (each : ∀ a, Conducts Q (f a) m) :
    Conducts Q (call c >>= f) m := by
  refine conducts_step legal fun a => ?_
  rw [stays a]
  exact each a

theorem conducts_bind {P : α → Mode → Prop} {p : Task α} {f : α → Task β}
    (first : Conducts P p m) (each : ∀ a m', P a m' → Conducts Q (f a) m') :
    Conducts Q (p >>= f) m :=
  wp_bind (wp_mono first each)

theorem Conducts.returned {α : Type} {Q : α → Mode → Prop} {p : Task α} {m : Mode}
    {answers : Nat → Environment} {n : Nat} {a : α} (conducts : Conducts Q p m)
    (returned : p.result answers n = some a) : ∃ m', Q a m' := by
  induction p generalizing m n with
  | pure b =>
    cases returned
    exact ⟨m, conducts⟩
  | raise => cases returned
  | call c next ih => exact ih (answers n c) (conducts.2 (answers n c) _ rfl) returned

end Rules

abbrev Serves (s₀ : AgentRuntimeState) (m₀ : Mode) (p : Task AgentRuntimeState) (m : Mode) :
    Prop :=
  Conducts (fun s' m' => Continues s₀ m₀ s' m') p m

/-- The program continues from where it began, and returns a value with the state. -/
abbrev Reports {α : Type} (s₀ : AgentRuntimeState) (m₀ : Mode)
    (p : Task (α × AgentRuntimeState)) (m : Mode) : Prop :=
  Conducts (fun result m' => Continues s₀ m₀ result.2 m') p m

section Services

open Services

variable {m m₀ : Mode} {s s₀ : AgentRuntimeState}

theorem saveState_keeps (before : Continues s₀ m₀ s m) :
    Conducts (fun s' m' => m' = m ∧ Continues s₀ m₀ s' m) (saveState s) m := by
  refine conducts_call trivial (fun _ => rfl) fun status => ?_
  split
  · refine conducts_call trivial (fun _ => rfl) fun persisted => ?_
    refine conducts_call (before.coherent.same rfl) (fun _ => rfl) fun _ => ?_
    exact ⟨rfl, before.same rfl⟩
  · exact conducts_call before.coherent (fun _ => rfl) fun _ => ⟨rfl, before⟩

theorem saveState_serves (before : Continues s₀ m₀ s m) : Serves s₀ m₀ (saveState s) m := by
  refine wp_mono (saveState_keeps before) ?_
  rintro s' _ ⟨rfl, saved⟩
  exact saved

theorem times_serves (before : Continues s₀ m₀ s m) (n : Nat) :
    Serves s₀ m₀ (Program.times n saveState s) m := by
  refine wp_times (I := fun s' m' => Continues s₀ m₀ s' m') before ?_
  intro s' m' continued
  exact saveState_serves continued

theorem destroyRuntimeSandboxSession_serves (before : Continues s₀ m₀ s m) :
    Serves s₀ m₀ (destroyRuntimeSandboxSession s) m :=
  conducts_call trivial (fun _ => rfl) fun n => times_serves before n

theorem cancelCurrentAction_conducts (coherent : Coherent m s) :
    Conducts (fun _ m' => m' = m) (cancelCurrentAction s) m := by
  unfold cancelCurrentAction
  cases named : s.currentActionId with
  | none => exact wp_pure rfl
  | some actionId =>
    refine ⟨fun name listed phase => ?_, fun _ m' answered => answered⟩
    rw [← (coherent.resuming name listed phase).2, named]

theorem stop_reports (before : Continues s₀ m₀ s m) : Reports s₀ m₀ (stop s) m := by
  refine conducts_bind (cancelCurrentAction_conducts before.coherent) ?_
  rintro _ m' rfl
  refine conducts_bind (destroyRuntimeSandboxSession_serves (before.same rfl)) fun t m' cleared => ?_
  exact conducts_bind (saveState_serves cleared) fun u m'' saved => saved

theorem stopIfCancelled_reports (before : Continues s₀ m₀ s m) :
    Reports s₀ m₀ (stopIfCancelled s) m := by
  refine conducts_call trivial (fun _ => rfl) fun cancelled => ?_
  cases cancelled with
  | false => exact before
  | true => exact stop_reports before

theorem nextCheckpointSequence_conducts (s : AgentRuntimeState) :
    Conducts (fun sequence m' => m' = m ∧
      (0 < s.checkpointSequence → sequence = s.checkpointSequence + 1))
      (nextCheckpointSequence s) m := by
  unfold nextCheckpointSequence
  split
  · exact ⟨rfl, fun _ => rfl⟩
  · rename_i none
    exact conducts_call trivial (fun _ => rfl) fun _ => ⟨rfl, fun some => absurd some none⟩

theorem persistCheckpoint_adopts {t : AgentRuntimeState} (before : Continues s₀ m₀ s m)
    (alike : frame t = frame s) (numbered : t.checkpointSequence = s.checkpointSequence)
    (adopts : Adopts m t) :
    Conducts (fun s' m' => Continues s₀ m₀ s' m' ∧ s'.observations = t.observations)
      (persistCheckpoint t) m := by
  refine conducts_bind (nextCheckpointSequence_conducts t) ?_
  rintro sequence m' ⟨rfl, next⟩
  have stored := before.stored { t with checkpointSequence := sequence } alike sequence rfl
  rw [numbered, before.coherent.sequence] at next
  refine conducts_step ⟨adopts, stored.coherent, next⟩ fun taken => ?_
  cases taken with
  | false => exact trivial
  | true =>
    refine wp_mono (saveState_keeps stored) ?_
    rintro s' _ ⟨rfl, saved⟩
    exact ⟨saved, saved.coherent.observations⟩

theorem persistCheckpoint_serves (before : Continues s₀ m₀ s m) :
    Serves s₀ m₀ (persistCheckpoint s) m :=
  wp_mono (persistCheckpoint_adopts before rfl rfl (.inl before.coherent.observations))
    fun _ _ stored => stored.1

theorem fail_serves (before : Continues s₀ m₀ s m) (reason : String) (detail : Option String)
    (timedOut : Bool) : Serves s₀ m₀ (Services.fail s reason detail timedOut) m := by
  refine conducts_call trivial (fun _ => rfl) fun _ => ?_
  refine conducts_bind (persistCheckpoint_serves (before.same rfl)) fun t m' stored => ?_
  refine conducts_bind (destroyRuntimeSandboxSession_serves stored) fun u m'' cleared => ?_
  exact saveState_serves (cleared.same rfl)

theorem failForPolicyBlock_serves (before : Continues s₀ m₀ s m) (decision : PolicyDecision)
    (currentStepId : Option String) :
    Serves s₀ m₀ (failForPolicyBlock s decision currentStepId) m := by
  have named : Continues s₀ m₀ { s with currentStepId := currentStepId.or s.currentStepId } m :=
    before.same rfl
  exact fail_serves named _ _ _

theorem pauseForGuardrailApproval_serves (before : Continues s₀ m₀ s m) (stage key : String) :
    Serves s₀ m₀ (pauseForGuardrailApproval s stage key) m := by
  refine conducts_call trivial (fun _ => rfl) fun approvalId => ?_
  refine conducts_call trivial (fun _ => rfl) fun _ => ?_
  refine conducts_call trivial (fun _ => rfl) fun preserved => ?_
  exact saveState_serves (before.same rfl)

theorem pauseForApproval_serves (before : Continues s₀ m₀ s m) (step : PlanStep) :
    Serves s₀ m₀ (pauseForApproval s step) m := by
  refine conducts_call trivial (fun _ => rfl) fun approvalId => ?_
  refine conducts_call trivial (fun _ => rfl) fun _ => ?_
  exact saveState_serves (before.same rfl)

theorem recordModelGatewayFailure_serves (before : Continues s₀ m₀ s m)
    (reason message : String) : Serves s₀ m₀ (recordModelGatewayFailure s reason message) m := by
  refine conducts_call trivial (fun _ => rfl) fun current => ?_
  split
  · exact conducts_call trivial (fun _ => rfl) fun persisted => before.same rfl
  · exact fail_serves before _ _ _

theorem waitForUncertainResolution_keeps (before : Continues s₀ m₀ s m) (action : AgentAction) :
    Conducts (fun s' m' => m' = m ∧ Continues s₀ m₀ s' m)
      (waitForUncertainResolution s action) m :=
  conducts_call trivial (fun _ => rfl) fun _ => saveState_keeps (before.same rfl)

theorem waitForUncertainResolution_serves (before : Continues s₀ m₀ s m) (action : AgentAction) :
    Serves s₀ m₀ (waitForUncertainResolution s action) m := by
  refine wp_mono (waitForUncertainResolution_keeps before action) ?_
  rintro s' _ ⟨rfl, saved⟩
  exact saved

theorem waitForUser_serves (before : Continues s₀ m₀ s m) (reason : String) :
    Serves s₀ m₀ (waitForUser s reason) m :=
  conducts_call trivial (fun _ => rfl) fun _ => persistCheckpoint_serves (before.same rfl)

theorem reported_returns {ε α : Type} (before : Continues s₀ m₀ s m) (report : Report ε α) :
    Conducts (fun result m' => result.1 = report.result ∧ Continues s₀ m₀ result.2 m')
      (reported report s) m :=
  conducts_bind (times_serves before report.saves) fun _ _ saved => ⟨rfl, saved⟩

theorem reported_reports {ε α : Type} (before : Continues s₀ m₀ s m) (report : Report ε α) :
    Reports s₀ m₀ (reported report s) m :=
  conducts_bind (times_serves before report.saves) fun _ _ saved => saved

theorem loadResources_reports (before : Continues s₀ m₀ s m) :
    Reports s₀ m₀ (loadResources s) m := by
  refine conducts_call trivial (fun _ => rfl) fun report => ?_
  refine conducts_bind (reported_reports before report) fun (context, t) m' loaded => ?_
  cases context with
  | error text => exact loaded
  | ok _ => exact conducts_call trivial (fun _ => rfl) fun refs => reported_reports loaded refs

theorem prepareSelectedSkill_reports (before : Continues s₀ m₀ s m) (decision : AgentDecision) :
    Reports s₀ m₀ (prepareSelectedSkill s decision) m :=
  conducts_call trivial (fun _ => rfl) fun report => reported_reports before report

theorem budgetFailure_conducts (s : AgentRuntimeState) :
    Conducts (fun failure m' => m' = m ∧ (failure = none → s.iteration < s.maxIterations))
      (budgetFailure s) m := by
  unfold budgetFailure
  split
  · exact ⟨rfl, fun none => by cases none⟩
  rename_i left
  split
  · exact ⟨rfl, fun none => by cases none⟩
  refine conducts_call trivial (fun _ => rfl) fun passed => ?_
  split
  · exact ⟨rfl, fun none => by cases none⟩
  refine conducts_call trivial (fun _ => rfl) fun exhausted => ?_
  split
  · exact ⟨rfl, fun none => by cases none⟩
  · exact ⟨rfl, fun _ => Nat.not_le.mp left⟩

theorem consumeSteeringAtCheckpoint_serves (run : Run) (before : Continues s₀ m₀ s m) :
    Serves s₀ m₀ (consumeSteeringAtCheckpoint run s) m := by
  unfold consumeSteeringAtCheckpoint
  split
  · exact before
  · refine conducts_call trivial (fun _ => rfl) fun messages => ?_
    split
    · exact before
    · exact saveState_serves (before.same rfl)

theorem takePlanned_reports (before : Continues s₀ m₀ s m) :
    Reports s₀ m₀ (takePlanned s) m := by
  unfold takePlanned
  split
  · exact before
  · refine conducts_bind (saveState_serves (before.same rfl)) fun t m' saved => ?_
    split <;> exact saved

theorem staticPlanLoaded_serves (run : Run) (before : Continues s₀ m₀ s m)
    (plan : List PlanStep) : Serves s₀ m₀ (staticPlanLoaded run s plan) m := by
  refine conducts_bind (saveState_serves (before.same rfl)) fun t m' saved => ?_
  split
  · exact saved.same rfl
  · exact saved

theorem decideFromStaticPlan_reports (run : Run) (before : Continues s₀ m₀ s m) :
    Reports s₀ m₀ (decideFromStaticPlan run s) m := by
  unfold decideFromStaticPlan
  split
  · exact conducts_bind (takePlanned_reports before) fun _ _ taken => taken
  · refine conducts_call trivial (fun _ => rfl) fun plan => ?_
    cases plan with
    | error failure => exact before
    | ok plan =>
      refine conducts_bind (staticPlanLoaded_serves run before plan) fun t m' loaded => ?_
      exact conducts_bind (takePlanned_reports loaded) fun _ _ taken => taken

theorem core_proposed (s : AgentRuntimeState) (proposal : Proposal) :
    core (proposed s proposal) = core s := by
  unfold proposed
  cases proposal.repeatedFailure <;> rfl

theorem decide_reports (run : Run) (before : Continues s₀ m₀ s m) :
    Reports s₀ m₀ (Services.decide run s) m := by
  have cleared : Continues s₀ m₀
      { s with runtimeMetadata := { s.runtimeMetadata with prefetchedAction := false } } m :=
    before.same rfl
  unfold Services.decide
  dsimp only
  split
  · exact conducts_bind (saveState_serves (cleared.same rfl)) fun _ _ saved => saved
  · split
    · exact decideFromStaticPlan_reports run cleared
    · refine conducts_call trivial (fun _ => rfl) fun report => ?_
      refine conducts_bind (reported_reports cleared report) fun (answer, t) m' told => ?_
      match answer with
      | .error failure => exact told
      | .ok none => exact decideFromStaticPlan_reports run told
      | .ok (some proposal) => exact told.same (core_proposed t proposal)

theorem verify_reports (run : Run) (before : Continues s₀ m₀ s m) (decision : AgentDecision) :
    Reports s₀ m₀ (Services.verify run s decision) m := by
  refine conducts_call trivial (fun _ => rfl) fun verdict => ?_
  match verdict with
  | .error failure => exact before
  | .ok none => exact before.same rfl
  | .ok (some result) => exact before.same rfl

theorem requiresApproval_conducts (s : AgentRuntimeState) (decision : AgentDecision)
    (step : PlanStep) :
    Conducts (fun _ m' => m' = m) (requiresApproval s decision step) m := by
  unfold requiresApproval
  split
  · exact wp_pure rfl
  · split
    · exact wp_pure rfl
    · exact ⟨trivial, fun _ _ answered => answered⟩

theorem handleFailure_serves (before : Continues s₀ m₀ s m)
    (result : Except ToolError ToolResult) : Serves s₀ m₀ (handleFailure s result) m := by
  unfold handleFailure
  split
  · exact pauseForGuardrailApproval_serves before _ _
  · exact before
  · exact before

theorem closeApprovalExecution_serves (before : Continues s₀ m₀ s m) (step : PlanStep)
    (observation : AgentObservation) :
    Serves s₀ m₀ (closeApprovalExecution s step observation) m := by
  unfold closeApprovalExecution
  split
  · exact before
  · split
    · exact before
    · split
      · exact before
      · exact conducts_call trivial (fun _ => rfl) fun _ => before.same rfl

theorem finalizeSuccess_serves (before : Continues s₀ m₀ s m) :
    Serves s₀ m₀ (finalizeSuccess s) m := by
  refine conducts_call trivial (fun _ => rfl) fun saves => ?_
  refine conducts_bind (times_serves before saves) fun t m' saved => ?_
  refine conducts_call trivial (fun _ => rfl) fun paused => ?_
  have closed : ∀ u m'', Continues s₀ m₀ u m'' → Serves s₀ m₀ (do
      if (← call .getRun) = .cancelled then saveState { u with status := .cancelled } else
      call (.updateRunStatus .succeeded)
      saveState { u with status := .succeeded, currentStepId := none }) m'' := by
    intro u m'' kept
    refine conducts_call trivial (fun _ => rfl) fun status => ?_
    split
    · exact saveState_serves (kept.same rfl)
    · exact conducts_call trivial (fun _ => rfl) fun _ => saveState_serves (kept.same rfl)
  split
  · exact closed t m' saved
  · exact conducts_bind (destroyRuntimeSandboxSession_serves saved) closed

theorem finalize_serves (before : Continues s₀ m₀ s m) : Serves s₀ m₀ (finalize s) m := by
  refine conducts_call trivial (fun _ => rfl) fun response => ?_
  refine conducts_bind (finalizeSuccess_serves (before.same rfl)) fun t m' closed => ?_
  split
  · exact closed
  · exact saveState_serves (closed.same rfl)

end Services

end Taroai.Agent
