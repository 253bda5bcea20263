import Taroai.Agent.Conduct

/-! What a visit of a node does: it keeps to the protocol, and moves the counters that bound the
execution only in `observe`, which sets the limits, in `decide`, which opens a cycle while one is
left, and in `repair`. -/

namespace Taroai.Agent

open Program (wp_bind wp_mono wp_pure wp_times)
open Services

variable {m m₀ : Mode} {s s₀ : AgentRuntimeState}

def Stays (s₀ : AgentRuntimeState) (m₀ : Mode) (s : AgentRuntimeState) (m : Mode) : Prop :=
  Continues s₀ { m₀ with held := m.held } s m

theorem Continues.stays (before : Continues s₀ m₀ s m) : Stays s₀ m₀ s m := by
  rw [Stays, before.held]
  exact before

theorem Continues.claims {held : Option (String × Nat)}
    (before : Continues s₀ { m₀ with held := held } s m) : Stays s₀ m₀ s m := by
  rw [Stays, before.held]
  exact before

theorem Continues.claim (before : Continues s₀ m₀ s m) (held : Option (String × Nat)) :
    Continues s₀ { m₀ with held := held } s { m with held := held } where
  coherent := before.coherent.of_frame rfl rfl rfl before.coherent.sequence
    before.coherent.observations
  phase := before.phase
  bound := before.bound
  held := rfl
  frame := before.frame

section Actions

theorem observationOf_actionId (actionId : String) (result : Except ToolError ToolResult) :
    (Services.observationOf actionId result).actionId = actionId := by
  unfold Services.observationOf
  cases result with
  | error error => rfl
  | ok result =>
    dsimp only
    split <;> rfl

theorem pauseForConnectorReconnect_serves (before : Continues s₀ m₀ s m)
    (running : m₀.phase = .running) (action : AgentAction) (observation : AgentObservation) :
    Serves s₀ m₀ (pauseForConnectorReconnect s action observation) m := by
  unfold pauseForConnectorReconnect
  cases observation.output.connectorId with
  | none => exact trivial
  | some connectorId =>
    refine conducts_call (before.phase.trans running) (fun _ => rfl) fun paused => ?_
    cases paused with
    | false => exact trivial
    | true =>
      refine conducts_call trivial (fun _ => rfl) fun oauth => ?_
      refine conducts_call trivial (fun _ => rfl) fun _ => ?_
      exact saveState_serves (before.same rfl)

theorem runTool_conducts (before : Continues s₀ m₀ s m) (claimed : AgentAction) (step : PlanStep)
    (held : m₀.held = some (claimed.id, claimed.leaseGeneration)) :
    Conducts (fun result m' => Stays s₀ m₀ result.2 m') (runTool s claimed step) m := by
  refine conducts_call trivial (fun _ => rfl) fun report => ?_
  refine conducts_bind (reported_reports before report) fun (prepared, t) m' ready => ?_
  cases prepared with
  | error error => exact ready.stays
  | ok _ =>
    refine conducts_bind (stopIfCancelled_reports ready) fun (stopped, u) m'' going => ?_
    cases stopped with
    | true => exact going.stays
    | false =>
      refine conducts_step (going.held.trans held) fun report => ?_
      exact conducts_bind (reported_reports (going.claim none) report) fun _ _ told => told.claims

theorem leaseLost_serves (before : Continues s₀ m₀ s m) (actionId reason : String) :
    Serves s₀ m₀ (leaseLost s actionId reason) m :=
  saveState_serves (before.same rfl)

theorem commitObservation_reports (before : Continues s₀ m₀ s m) (running : m₀.phase = .running)
    (claimed : AgentAction) (step : PlanStep) (observation : AgentObservation)
    (own : observation.actionId = claimed.id) :
    Reports s₀ m₀ (commitObservation s claimed step observation) m := by
  refine conducts_call trivial (fun _ => rfl) fun renewed => ?_
  cases renewed with
  | false => exact conducts_bind (leaseLost_serves before _ _) fun _ _ lost => lost
  | true =>
    have observed : (withObservation s step observation).observations =
        m.observations.filter (fun item => item.actionId ≠ claimed.id) ++ [observation] := by
      rw [← own, ← before.coherent.observations]
      rfl
    refine conducts_step ⟨before.phase.trans running, own, before.coherent.bound,
      before.coherent.started, observed⟩ fun taken => ?_
    cases taken with
    | none => exact conducts_bind (leaseLost_serves before _ _) fun _ _ lost => lost
    | some sequence =>
      have committed := before.stored
        { withObservation s step observation with checkpointSequence := sequence } rfl sequence rfl
      refine conducts_bind (closeApprovalExecution_serves committed step observation)
        fun t m'' closed => ?_
      exact conducts_bind (saveState_serves closed) fun _ _ saved => saved

theorem claimLost_serves (before : Continues s₀ m₀ s m) (action : AgentAction) :
    Serves s₀ m₀ (claimLost s action) m := by
  refine conducts_call trivial (fun _ => rfl) fun stored => ?_
  cases stored with
  | none => exact trivial
  | some current =>
    dsimp only
    split
    · exact waitForUncertainResolution_serves before current
    · exact before

theorem executeClaimed_conducts (before : Continues s₀ m₀ s m) (running : m₀.phase = .running)
    (claimed : AgentAction) (held : m₀.held = some (claimed.id, claimed.leaseGeneration)) :
    Conducts (fun result m' => Stays s₀ m₀ result.2 m') (executeClaimed s claimed) m := by
  have named : Continues s₀ m₀ { s with currentStepId := some (decisionStep claimed).id } m :=
    before.same rfl
  refine conducts_bind (runTool_conducts named claimed _ held) fun (result, t) m' invoked => ?_
  cases result with
  | none => exact invoked
  | some result =>
    refine conducts_bind (handleFailure_serves invoked result) fun u m'' handled => ?_
    refine conducts_bind (stopIfCancelled_reports handled) fun (stopped, v) m''' going => ?_
    cases stopped with
    | true => exact going.claims
    | false =>
      have own := observationOf_actionId claimed.id result
      refine wp_mono (commitObservation_reports going running claimed _ _ own) ?_
      exact fun _ _ committed => committed.claims

theorem executeDurableAction_conducts (before : Continues s₀ m₀ s m)
    (running : m₀.phase = .running) (action : AgentAction) :
    Conducts (fun result m' => Stays s₀ m₀ result.2 m') (executeDurableAction s action) m := by
  refine conducts_bind (stopIfCancelled_reports before) fun (stopped, t) m' going => ?_
  cases stopped with
  | true => exact going.stays
  | false =>
    refine conducts_step (going.phase.trans running) fun claimed => ?_
    cases claimed with
    | none => exact conducts_bind (claimLost_serves going action) fun _ _ lost => lost.stays
    | some claimed =>
      have owned := going.claim (some (claimed.id, claimed.leaseGeneration))
      refine conducts_bind (stopIfCancelled_reports owned) fun (stopped, u) m''' kept => ?_
      cases stopped with
      | true => exact kept.claims
      | false =>
        refine wp_mono (executeClaimed_conducts kept running claimed rfl) ?_
        exact fun _ _ executed => executed

end Actions

def Moved (runtime : AgentRuntime) (node : Node) (s s' : AgentRuntimeState) : Prop :=
  match node with
  | .observe =>
    s'.graphRoute = .ended ∨
      ∃ iteration, s.iteration ≤ iteration ∧
        budget s' = budget { Nodes.withLimits runtime s with iteration := iteration }
  | .decide =>
    (budget s' = budget s ∧ (s'.graphRoute = .to .fail ∨ s'.graphRoute = .ended)) ∨
      (s.iteration < s.maxIterations ∧ budget s' = budget (Nodes.nextCycle s))
  | .repair =>
    (budget s' = budget s ∧ s'.graphRoute = .ended) ∨
      (budget s' = budget { s with repairAttempts := s.repairAttempts + 1 } ∧
        (s'.graphRoute = .to .decide → s.repairAttempts < s.maxRepairs))
  | .policy | .act | .observeResult | .verify | .replan | .complete | .waitUser | .fail =>
    budget s' = budget s

structure Runs (s₀ : AgentRuntimeState) (s : AgentRuntimeState) (m : Mode) : Prop where
  phase : m.phase = .running
  coherent : Coherent m s
  budget : budget s = budget s₀

section Running

theorem Continues.runs (before : Continues s₀ m₀ s m) (running : m₀.phase = .running) :
    Runs s₀ s m :=
  ⟨before.phase.trans running, before.coherent, budget_of_frame before.frame⟩

theorem runs_pure {s' : AgentRuntimeState} (before : Continues s₀ m₀ s m)
    (running : m₀.phase = .running) (alike : core s' = core s) :
    Conducts (fun s' m' => Runs s₀ s' m') (pure s') m :=
  (before.same alike).runs running

theorem Runs.same {s' : AgentRuntimeState} (before : Runs s₀ s m)
    (counters : Agent.budget s' = Agent.budget s)
    (sequence : s'.checkpointSequence = s.checkpointSequence)
    (observations : s'.observations = s.observations) : Runs s₀ s' m := by
  obtain ⟨phase, coherent, kept⟩ := before
  refine ⟨phase, ⟨?_, ?_, ?_, ?_, ?_⟩, counters.trans kept⟩
  · exact sequence.trans coherent.sequence
  · exact observations.trans coherent.observations
  · rw [iteration_of_budget counters]
    exact coherent.bound
  · rw [attempt_of_budget counters, iteration_of_budget counters]
    exact coherent.started
  · intro named listed resuming
    rw [phase] at resuming
    cases resuming

theorem currentAction_conducts (s : AgentRuntimeState) :
    Conducts (fun _ m' => m' = m) (Nodes.currentAction s) m := by
  unfold Nodes.currentAction
  split
  · exact wp_pure rfl
  · refine conducts_call trivial (fun _ => rfl) fun found => ?_
    cases found with
    | none => exact trivial
    | some action => exact wp_pure rfl

theorem conducts_stopIfCancelled {β : Type} {Q : β → Mode → Prop}
    {f : Bool × AgentRuntimeState → Task β} (before : Continues s₀ m₀ s m)
    (ends : ∀ t m', Continues s₀ m₀ t m' → Conducts Q (f (true, t)) m')
    (goes : ∀ t m', Continues s₀ m₀ t m' → Conducts Q (f (false, t)) m') :
    Conducts Q (stopIfCancelled s >>= f) m := by
  refine conducts_bind (stopIfCancelled_reports before) fun (stopped, t) m' kept => ?_
  cases stopped with
  | true => exact ends t m' kept
  | false => exact goes t m' kept

end Running

/-- The visit of a running execution conducts itself and leaves the counters as they were. -/
abbrev Passes (p : Task AgentRuntimeState) (s : AgentRuntimeState) (m : Mode) : Prop :=
  Conducts (fun s' m' => Runs s s' m') p m

section Passing

variable (runtime : AgentRuntime) (run : Run)

theorem policy_passes (coherent : Coherent m s) (running : m.phase = .running) :
    Passes (Nodes.policy s) s m := by
  refine conducts_stopIfCancelled (.refl coherent) (fun t m' kept => ?_) fun t m' kept => ?_
  · exact runs_pure kept running rfl
  refine conducts_bind (currentAction_conducts t) ?_
  rintro found m'' rfl
  cases found with
  | none => exact runs_pure kept running rfl
  | some action =>
    refine conducts_call trivial (fun _ => rfl) fun policy => ?_
    have named : Continues s m { t with currentStepId := some (decisionStep action).id } m'' :=
      kept.same rfl
    split
    · refine conducts_bind (requiresApproval_conducts _ _ _) ?_
      rintro approval _ rfl
      cases approval with
      | true =>
        refine conducts_bind (pauseForApproval_serves named _) fun u _ paused => ?_
        exact runs_pure paused running rfl
      | false => exact runs_pure named running rfl
    · refine conducts_bind (failForPolicyBlock_serves named _ _) fun u _ failed => ?_
      exact runs_pure failed running rfl

theorem act_passes (coherent : Coherent m s) (running : m.phase = .running) :
    Passes (Nodes.act s) s m := by
  refine conducts_stopIfCancelled (.refl coherent) (fun t m' kept => ?_) fun t m' kept => ?_
  · exact runs_pure kept running rfl
  refine conducts_bind (currentAction_conducts t) ?_
  rintro found m'' rfl
  cases found with
  | none => exact runs_pure kept running rfl
  | some action =>
    refine conducts_bind (executeDurableAction_conducts kept running action)
      fun (observation, u) _ executed => ?_
    cases observation with
    | none => exact runs_pure executed running rfl
    | some _ => exact runs_pure executed running rfl

theorem core_succeeded (s : AgentRuntimeState) (action : AgentAction)
    (observation : AgentObservation) : core (Nodes.succeeded run s action observation) = core s := by
  unfold Nodes.succeeded
  split <;> rfl

theorem core_planStepFailed (s : AgentRuntimeState) (action : AgentAction)
    (observation : AgentObservation) :
    core (Nodes.planStepFailed runtime s action observation) = core s := by
  unfold Nodes.planStepFailed
  split
  · unfold Nodes.retryStaticAction
    dsimp only
    split <;> rename_i retried
    · split at retried
      · cases retried
      · cases retried
        rfl
    · rfl
  · rfl

theorem failed_passes (before : Continues s₀ m₀ s m) (running : m₀.phase = .running)
    (action : AgentAction) (observation : AgentObservation) :
    Conducts (fun s' m' => Runs s₀ s' m') (Nodes.failed runtime s action observation) m := by
  unfold Nodes.failed
  split
  · refine conducts_bind (pauseForConnectorReconnect_serves before running _ _)
      fun u _ paused => ?_
    exact runs_pure paused running rfl
  split
  · exact runs_pure before running rfl
  split
  · refine conducts_bind (pauseForApproval_serves before _) fun u _ paused => ?_
    exact runs_pure paused running rfl
  split
  · exact runs_pure before running (core_planStepFailed runtime s action observation)
  · exact runs_pure before running rfl

theorem observeResult_passes (coherent : Coherent m s) (running : m.phase = .running) :
    Passes (Nodes.observeResult runtime run s) s m := by
  refine conducts_stopIfCancelled (.refl coherent) (fun t m' kept => ?_) fun t m' kept => ?_
  · exact runs_pure kept running rfl
  refine conducts_bind (currentAction_conducts t) ?_
  rintro found m'' rfl
  cases found with
  | none => exact runs_pure kept running rfl
  | some action =>
    dsimp only
    cases Nodes.observationOf t action.id with
    | none => exact runs_pure kept running rfl
    | some observation =>
      dsimp only
      split
      · exact runs_pure kept running (core_succeeded run t action observation)
      · exact failed_passes runtime kept running action observation

theorem verifierUnavailable_passes (before : Continues s₀ m₀ s m) (running : m₀.phase = .running)
    (decision : AgentDecision) (message : String) :
    Conducts (fun s' m' => Runs s₀ s' m')
      (Nodes.verifierUnavailable run s decision message) m := by
  unfold Nodes.verifierUnavailable
  split
  · exact runs_pure before running rfl
  · exact conducts_bind (recordModelGatewayFailure_serves before "model_gateway_error" message)
      fun _ _ _ => trivial

theorem verifyFailed_passes (before : Continues s₀ m₀ s m) (running : m₀.phase = .running)
    (decision : AgentDecision) (failure : ModelFailure) :
    Conducts (fun s' m' => Runs s₀ s' m') (Nodes.verifyFailed run s decision failure) m := by
  cases failure with
  | guardrailApproval stage key => exact trivial
  | guardrailViolation reason message => exact trivial
  | budgetExceeded message => exact runs_pure before running rfl
  | policyDenied message => exact runs_pure before running rfl
  | safetyRefusal message =>
    refine conducts_bind (recordModelGatewayFailure_serves before _ _) fun u _ recorded => ?_
    exact runs_pure recorded running rfl
  | gateway message => exact verifierUnavailable_passes run before running decision message

theorem verify_passes (coherent : Coherent m s) (running : m.phase = .running) :
    Passes (Nodes.verify run s) s m := by
  refine conducts_stopIfCancelled (.refl coherent) (fun t m' kept => ?_) fun t m' kept => ?_
  · exact runs_pure kept running rfl
  dsimp only
  cases t.lastDecision with
  | none => exact runs_pure kept running rfl
  | some decision =>
    refine conducts_bind (verify_reports run kept decision) fun (verdict, u) m'' told => ?_
    cases verdict with
    | error failure => exact verifyFailed_passes run told running decision failure
    | ok result =>
      refine conducts_stopIfCancelled told (fun v _ going => ?_) fun v _ going => ?_
      · exact runs_pure going running rfl
      · exact runs_pure going running rfl

theorem replan_passes (coherent : Coherent m s) (running : m.phase = .running) :
    Passes (Nodes.replan s) s m := by
  refine conducts_stopIfCancelled (.refl coherent) (fun t m' kept => ?_) fun t m' kept => ?_
  · exact runs_pure kept running rfl
  refine conducts_bind (persistCheckpoint_serves (kept.same rfl)) fun u _ stored => ?_
  exact runs_pure stored running rfl

theorem complete_passes (coherent : Coherent m s) (running : m.phase = .running) :
    Passes (Nodes.complete s) s m := by
  refine conducts_stopIfCancelled (.refl coherent) (fun t m' kept => ?_) fun t m' kept => ?_
  · exact runs_pure kept running rfl
  refine conducts_bind (finalize_serves kept) fun u _ finished => ?_
  exact runs_pure finished running rfl

theorem waitUser_passes (coherent : Coherent m s) (running : m.phase = .running) :
    Passes (Nodes.waitUser s) s m := by
  refine conducts_stopIfCancelled (.refl coherent) (fun t m' kept => ?_) fun t m' kept => ?_
  · exact runs_pure kept running rfl
  dsimp only
  cases t.currentCycleId with
  | none => exact runs_pure kept running rfl
  | some cycleId =>
    refine conducts_bind (waitForUser_serves kept _) fun u _ waiting => ?_
    exact runs_pure waiting running rfl

theorem fail_passes (coherent : Coherent m s) (running : m.phase = .running) :
    Passes (Nodes.fail s) s m := by
  refine conducts_stopIfCancelled (.refl coherent) (fun t m' kept => ?_) fun t m' kept => ?_
  · exact runs_pure kept running rfl
  refine conducts_bind (fail_serves kept _ _ _) fun u _ failed => ?_
  exact runs_pure failed running rfl

end Passing

structure Visited (runtime : AgentRuntime) (node : Node) (s s' : AgentRuntimeState) (m : Mode) :
    Prop where
  phase : m.phase = .running
  coherent : Coherent m s'
  moved : Moved runtime node s s'

section Decide

variable (runtime : AgentRuntime) (run : Run)

theorem decideFailed_runs (before : Continues s₀ m₀ s m) (running : m₀.phase = .running)
    (failure : ModelFailure) :
    Conducts (fun s' m' => Runs s₀ s' m') (Nodes.decideFailed s failure) m := by
  cases failure with
  | guardrailApproval stage key =>
    refine conducts_bind (pauseForGuardrailApproval_serves before _ _) fun u _ paused => ?_
    exact runs_pure paused running rfl
  | guardrailViolation reason message => exact runs_pure before running rfl
  | budgetExceeded message => exact runs_pure before running rfl
  | policyDenied message => exact runs_pure before running rfl
  | safetyRefusal message =>
    refine conducts_bind (recordModelGatewayFailure_serves before _ _) fun u _ recorded => ?_
    exact runs_pure recorded running rfl
  | gateway message =>
    exact conducts_bind (recordModelGatewayFailure_serves before "model_gateway_error" message)
      fun _ _ _ => trivial

theorem groundResponse_reports (before : Continues s₀ m₀ s m) (text : String) :
    Reports s₀ m₀ (Nodes.groundResponse run s text) m := by
  refine conducts_call trivial (fun _ => rfl) fun unsupported => ?_
  split
  · split
    · refine conducts_call trivial (fun _ => rfl) fun grounded => ?_
      cases grounded with
      | none => exact before
      | some text => exact before.same rfl
    · exact before
  · exact before

theorem reviewResponse_runs (before : Continues s₀ m₀ s m) (running : m₀.phase = .running)
    (decision : AgentDecision) :
    Conducts (fun s' m' => Runs s₀ s' m') (Nodes.reviewResponse run s decision) m := by
  unfold Nodes.reviewResponse
  split
  · refine conducts_call trivial (fun _ => rfl) fun workflowTask => ?_
    split
    · exact runs_pure before running rfl
    · exact runs_pure before running rfl
  · exact runs_pure before running rfl

theorem respond_runs (before : Continues s₀ m₀ s m) (running : m₀.phase = .running)
    (decision : AgentDecision) :
    Conducts (fun s' m' => Runs s₀ s' m') (Nodes.respond run s decision) m := by
  have proposed : Continues s₀ m₀
      { s with finalResponseText := some (decision.responseText.getD "") } m := before.same rfl
  refine conducts_bind (groundResponse_reports run proposed _) fun (unsupported, t) _ told => ?_
  cases unsupported with
  | true => exact runs_pure told running rfl
  | false => exact reviewResponse_runs run told running decision

theorem proposeAction_runs (before : Continues s₀ m₀ s m) (running : m₀.phase = .running)
    (cycleId : String) (decision : AgentDecision) :
    Conducts (fun s' m' => Runs s₀ s' m') (Nodes.proposeAction s cycleId decision) m := by
  unfold Nodes.proposeAction
  split
  · refine conducts_call trivial (fun _ => rfl) fun actionId => ?_
    refine conducts_call ⟨before.phase.trans running, rfl, rfl⟩ (fun _ => rfl) fun taken => ?_
    cases taken with
    | true => exact (before.runs running).same rfl rfl rfl
    | false => exact trivial
  · exact runs_pure before running rfl

theorem dispatch_runs (before : Continues s₀ m₀ s m) (running : m₀.phase = .running)
    (cycleId : String) (decision : AgentDecision) :
    Conducts (fun s' m' => Runs s₀ s' m') (Nodes.dispatch run s cycleId decision) m := by
  unfold Nodes.dispatch
  split
  · exact runs_pure before running rfl
  · exact runs_pure before running rfl
  · exact respond_runs run before running decision
  · exact proposeAction_runs before running cycleId decision

theorem followDecision_runs (before : Continues s₀ m₀ s m) (running : m₀.phase = .running)
    (cycleId : String) (decision : AgentDecision) :
    Conducts (fun s' m' => Runs s₀ s' m') (Nodes.followDecision run s cycleId decision) m := by
  unfold Nodes.followDecision
  split
  · exact runs_pure before running rfl
  split
  · refine conducts_bind (prepareSelectedSkill_reports before decision)
      fun (loaded, t) _ told => ?_
    match loaded with
    | .error text => exact runs_pure told running rfl
    | .ok true => exact runs_pure told running rfl
    | .ok false => exact dispatch_runs run told running cycleId decision
  · exact dispatch_runs run before running cycleId decision

theorem startCycle_runs (before : Continues s₀ m₀ s m) (running : m₀.phase = .running)
    (unused : m₀.bound < s₀.iteration) (cycleId : String) (decision : AgentDecision) :
    Conducts (fun s' m' => Runs s₀ s' m') (Nodes.startCycle run s cycleId decision) m := by
  have counters := budget_of_frame before.frame
  have iteration := iteration_of_budget counters
  refine conducts_step ⟨before.phase.trans running, ?_⟩ fun taken => ?_
  · rw [before.bound, iteration]
    exact unused
  cases taken with
  | false => exact trivial
  | true =>
    let opened : Mode := { m with bound := s.iteration }
    have coherent : Coherent opened { s with currentCycleId := some cycleId } := by
      refine ⟨before.coherent.sequence, before.coherent.observations, Nat.le_refl _,
        before.coherent.started, fun named listed resuming => ?_⟩
      rw [show opened.phase = m.phase from rfl, before.phase, running] at resuming
      cases resuming
    have started := followDecision_runs run (Continues.refl coherent)
      (before.phase.trans running) cycleId decision
    refine wp_mono started fun s' m' ran => ?_
    exact ⟨ran.phase, ran.coherent, ran.budget.trans counters⟩

theorem decide_visits (coherent : Coherent m s) (running : m.phase = .running) :
    Conducts (fun s' m' => Visited runtime .decide s s' m') (Nodes.decide run s) m := by
  have stays {t : AgentRuntimeState} {m' : Mode} (kept : Continues s m t m')
      (route : t.graphRoute = .to .fail ∨ t.graphRoute = .ended) :
      Visited runtime .decide s t m' :=
    ⟨kept.phase.trans running, kept.coherent, .inl ⟨budget_of_frame kept.frame, route⟩⟩
  refine conducts_bind (budgetFailure_conducts s) ?_
  rintro budgetFailure _ ⟨rfl, left⟩
  cases budgetFailure with
  | some code => exact stays ((Continues.refl coherent).same rfl) (.inl rfl)
  | none =>
    refine conducts_stopIfCancelled (.refl coherent) (fun t m' kept => ?_) fun t m' kept => ?_
    · exact stays (kept.same rfl) (.inr rfl)
    refine conducts_bind (consumeSteeringAtCheckpoint_serves run kept) fun t m' kept => ?_
    refine conducts_call trivial (fun _ => rfl) fun cycleId => ?_
    -- From here on the counters are those of the next cycle.
    have counters := budget_of_frame kept.frame
    have next : budget (Nodes.nextCycle t) = budget (Nodes.nextCycle s) := by
      simp only [budget, Prod.mk.injEq] at counters
      simp only [budget, Nodes.nextCycle, Prod.mk.injEq]
      exact ⟨congrArg Nat.succ counters.1, counters.2⟩
    have opened : Coherent m' (Nodes.nextCycle t) := by
      refine ⟨kept.coherent.sequence, kept.coherent.observations, ?_, ?_, ?_⟩
      · exact Nat.le_succ_of_le kept.coherent.bound
      · exact Nat.le_succ_of_le kept.coherent.started
      · intro named listed resuming
        rw [kept.phase, running] at resuming
        cases resuming
    have runs := kept.phase.trans running
    have moves {s' : AgentRuntimeState} {m'' : Mode} (ran : Runs (Nodes.nextCycle t) s' m'') :
        Visited runtime .decide s s' m'' :=
      ⟨ran.phase, ran.coherent, .inr ⟨left rfl, ran.budget.trans next⟩⟩
    refine conducts_bind (decide_reports run (Continues.refl opened))
      fun (decision, u) m'' told => ?_
    cases decision with
    | error failure =>
      exact wp_mono (decideFailed_runs told runs failure) fun _ _ ran => moves ran
    | ok decision =>
      refine conducts_stopIfCancelled told (fun v _ going => ?_) fun v m''' going => ?_
      · exact wp_mono (runs_pure going runs rfl) fun _ _ ran => moves ran
      · have decided : Continues (Nodes.nextCycle t) m'
            { v with lastDecision := some decision } m''' := going.same rfl
        refine wp_mono (startCycle_runs run decided runs ?_ cycleId decision) ?_
        · exact Nat.lt_succ_of_le kept.coherent.bound
        · exact fun _ _ ran => moves ran

end Decide

theorem core_countRepair (s : AgentRuntimeState) :
    core (Nodes.countRepair s) = core { s with repairAttempts := s.repairAttempts + 1 } := by
  unfold Nodes.countRepair
  dsimp only
  split
  · rfl
  · split <;> rfl

theorem repair_visits (runtime : AgentRuntime) (coherent : Coherent m s)
    (running : m.phase = .running) :
    Conducts (fun s' m' => Visited runtime .repair s s' m') (Nodes.repair s) m := by
  refine conducts_stopIfCancelled (.refl coherent) (fun t m' kept => ?_) fun t m' kept => ?_
  · exact ⟨kept.phase.trans running, kept.coherent.same rfl,
      .inl ⟨budget_of_frame kept.frame, rfl⟩⟩
  have counters := budget_of_frame kept.frame
  have counted : Coherent m' (Nodes.countRepair t) := by
    have alike := core_countRepair t
    refine Coherent.same (s := { t with repairAttempts := t.repairAttempts + 1 }) ?_ alike
    obtain ⟨sequence, observations, bound, started, resuming⟩ := kept.coherent
    exact ⟨sequence, observations, bound, started, resuming⟩
  have next : budget (Nodes.countRepair t) =
      budget { s with repairAttempts := s.repairAttempts + 1 } := by
    have alike := congrArg (fun c => c.2.2.2) (core_countRepair t)
    simp only [core, frame, budget, Prod.mk.injEq] at alike counters ⊢
    rw [alike.1, alike.2.1, alike.2.2.1, alike.2.2.2.1, alike.2.2.2.2]
    exact ⟨counters.1, counters.2.1, counters.2.2.1, counters.2.2.2.1,
      congrArg Nat.succ counters.2.2.2.2⟩
  refine conducts_bind (persistCheckpoint_serves (.refl counted)) fun u m'' stored => ?_
  have moved := (budget_of_frame stored.frame).trans next
  have phase := (stored.phase.trans kept.phase).trans running
  split
  · exact ⟨phase, stored.coherent.same rfl, .inr ⟨moved, fun route => by cases route⟩⟩
  · rename_i within
    refine ⟨phase, stored.coherent.same rfl, .inr ⟨moved, fun _ => ?_⟩⟩
    have maxRepairs : u.maxRepairs = s.maxRepairs := congrArg (fun c => c.2.2.2.1) moved
    have attempts : u.repairAttempts = s.repairAttempts + 1 := congrArg (fun c => c.2.2.2.2) moved
    omega

/-- How `observe` leaves the actions that it listed: each committed observation is in the state,
and it goes on only when no action may still be running. -/
inductive Recovered (m : Mode) (s : AgentRuntimeState) : Prop
  | waiting {named : Option String} {actions : List AgentAction}
      (phase : m.phase = .resuming named (some actions))
      (complete : Nodes.recoveredObservations s.observations actions = [])
      (route : s.graphRoute = .ended)
  | settled {named : Option String} {actions : List AgentAction}
      (phase : m.phase = .resuming named (some actions))
      (complete : Nodes.recoveredObservations s.observations actions = [])
      (ended : ∀ action ∈ actions,
        action.status ≠ .uncertain ∧ action.status ≠ .running ∧ action.status ≠ .pending)
      (route : s.graphRoute = .to .decide) (iteration : s.iteration = m.bound)
  | pending {named : Option String} {actions : List AgentAction} {pending : AgentAction}
      (phase : m.phase = .resuming named (some actions))
      (complete : Nodes.recoveredObservations s.observations actions = [])
      (quiet : ∀ action ∈ actions, action.status ≠ .uncertain ∧ action.status ≠ .running)
      (member : pending ∈ actions) (status : pending.status = .pending)
      (route : s.graphRoute = .to .policy)
      (iteration : s.iteration = max m.bound (actionIteration pending))
      (action : s.currentActionId = some pending.id)

theorem Recovered.complete (recovered : Recovered m s) :
    ∃ named actions, m.phase = .resuming named (some actions) ∧
      Nodes.recoveredObservations s.observations actions = [] := by
  cases recovered with
  | waiting phase complete => exact ⟨_, _, phase, complete⟩
  | settled phase complete => exact ⟨_, _, phase, complete⟩
  | pending phase complete => exact ⟨_, _, phase, complete⟩

/-- What a visit of `observe` leaves: the execution may go on as a running one. -/
structure Resumed (runtime : AgentRuntime) (s s' : AgentRuntimeState) (m : Mode) : Prop where
  coherent : Coherent { m with phase := .running } s'
  found : (s'.graphRoute = .ended ∨ s'.graphRoute = .to .fail) ∨ Recovered m s'
  moved : Moved runtime .observe s s'

section Observe

variable (runtime : AgentRuntime) (run : Run)

theorem Coherent.running {s' : AgentRuntimeState} (coherent : Coherent m s)
    (alike : core s' = core s) : Coherent { m with phase := .running } s' := by
  obtain ⟨sequence, observations, bound, started, -⟩ := coherent.same alike
  exact ⟨sequence, observations, bound, started, fun named listed resuming => by cases resuming⟩

theorem recovered_complete (observations : List AgentObservation) (actions : List AgentAction) :
    Nodes.recoveredObservations
      (observations ++ Nodes.recoveredObservations observations actions) actions = [] := by
  refine List.filter_eq_nil_iff.mpr fun item member missing => ?_
  simp only [List.map_append, List.mem_append, not_or, decide_eq_true_eq] at missing
  refine missing.2 (List.mem_map_of_mem ?_)
  exact List.mem_filter.mpr ⟨member, by simpa using missing.1⟩

theorem Coherent.list {named : Option String} {listed : Option (List AgentAction)}
    (coherent : Coherent m s) (phase : m.phase = .resuming named listed)
    (actions : List AgentAction) :
    Coherent { m with phase := .resuming named (some actions) } s := by
  refine ⟨coherent.sequence, coherent.observations, coherent.bound, coherent.started, ?_⟩
  intro named' listed' resuming
  cases resuming
  exact coherent.resuming named listed phase

variable {named : Option String} {actions : List AgentAction}

theorem adopted_adopts (before : Continues s₀ m₀ s m)
    (phase : m.phase = .resuming named (some actions)) :
    Adopts m
      { s with
        observations := s.observations ++ Nodes.recoveredObservations s.observations actions
        pendingUncertainActionId := none
        waitingReason := none } := by
  refine .inr ⟨named, actions, phase, ?_⟩
  rw [← before.coherent.observations]

theorem adoptObservations_adopts (before : Continues s₀ m₀ s m)
    (phase : m.phase = .resuming named (some actions)) :
    Conducts (fun s' m' => Continues s₀ m₀ s' m' ∧
      Nodes.recoveredObservations s'.observations actions = [])
      (Nodes.adoptObservations s actions) m := by
  unfold Nodes.adoptObservations
  dsimp only
  split
  · rename_i none
    exact ⟨before, none⟩
  · refine wp_mono (persistCheckpoint_adopts before rfl rfl (adopted_adopts before phase)) ?_
    rintro t m' ⟨stored, same⟩
    refine ⟨stored, ?_⟩
    rw [same]
    exact recovered_complete s.observations actions

theorem Continues.list (before : Continues s₀ m₀ s m) (phase : m₀.phase = .resuming named none)
    (actions : List AgentAction) :
    Continues s₀ { m₀ with phase := .resuming named (some actions) } s
      (m.after .listActions actions) := by
  have resuming := before.phase.trans phase
  have listed : m.after .listActions actions =
      { m with phase := .resuming named (some actions) } := by
    change m.list actions = _
    simp only [Mode.list, resuming]
  rw [listed]
  exact ⟨before.coherent.list resuming actions, rfl, before.bound, before.held, before.frame⟩

theorem resumeActions_resumes (before : Continues s₀ m₀ s m)
    (phase : m₀.phase = .resuming named (some actions))
    (complete : Nodes.recoveredObservations s.observations actions = []) :
    Conducts (fun s' m' => Coherent { m' with phase := .running } s' ∧ Recovered m' s' ∧
      ∃ iteration, s₀.iteration ≤ iteration ∧
        budget s' = budget { s₀ with iteration := iteration })
      (Nodes.resumeActions s actions) m := by
  have stays {t : AgentRuntimeState} {m' : Mode} (kept : Continues s₀ m₀ t m') :
      ∃ iteration, s₀.iteration ≤ iteration ∧
        budget t = budget { s₀ with iteration := iteration } :=
    ⟨s₀.iteration, Nat.le_refl _, budget_of_frame kept.frame⟩
  have waits {t : AgentRuntimeState} (kept : Continues s₀ m₀ t m) :
      Recovered m (Nodes.route t .ended) := by
    refine .waiting (kept.phase.trans phase) ?_ rfl
    rw [← complete, before.coherent.observations, ← kept.coherent.observations]
    rfl
  unfold Nodes.resumeActions
  split
  · rename_i uncertain _
    refine conducts_bind (waitForUncertainResolution_keeps before uncertain) ?_
    rintro t _ ⟨rfl, kept⟩
    exact ⟨kept.coherent.running rfl, waits kept, stays (kept.same rfl)⟩
  rename_i certain
  split
  · refine conducts_bind (saveState_keeps (before.same rfl)) ?_
    rintro t _ ⟨rfl, kept⟩
    exact ⟨kept.coherent.running rfl, waits kept, stays (kept.same rfl)⟩
  rename_i still
  have quiet : ∀ action ∈ actions, action.status ≠ .uncertain ∧ action.status ≠ .running := by
    intro action member
    have sure := List.find?_eq_none.mp certain action member
    simp only [List.any_eq_true, decide_eq_true_eq, not_exists, not_and] at still sure
    exact ⟨sure, still action member⟩
  have listed := before.phase.trans phase
  split
  · rename_i pending found
    have member := List.mem_of_find?_eq_some found
    have status : pending.status = .pending := by simpa using List.find?_some found
    have resumed := before.coherent.resuming _ _ listed
    refine ⟨⟨before.coherent.sequence, before.coherent.observations, ?_, ?_, ?_⟩, ?_, ?_⟩
    · exact Nat.le_trans before.coherent.bound (Nat.le_max_left _ _)
    · exact Nat.le_trans before.coherent.started (Nat.le_max_left _ _)
    · exact fun named listed resuming => by cases resuming
    · refine .pending listed complete quiet member status rfl ?_ rfl
      rw [← resumed.1]
      rfl
    · have counters := budget_of_frame before.frame
      refine ⟨max s.iteration (actionIteration pending), ?_, ?_⟩
      · rw [← iteration_of_budget counters]
        exact Nat.le_max_left _ _
      · simp only [budget, Prod.mk.injEq] at counters ⊢
        exact ⟨rfl, counters.2⟩
  · rename_i found
    refine ⟨before.coherent.running rfl, ?_, stays (t := Nodes.route s (.to .decide)) (before.same rfl)⟩
    refine .settled listed complete (fun action member => ?_) rfl
      (before.coherent.resuming _ _ listed).1
    have started := List.find?_eq_none.mp found action member
    exact ⟨(quiet action member).1, (quiet action member).2, by simpa using started⟩

theorem recoverActions_resumes (before : Continues s₀ m₀ s m)
    (phase : m₀.phase = .resuming named none) :
    Conducts (fun s' m' => Coherent { m' with phase := .running } s' ∧ Recovered m' s' ∧
      ∃ iteration, s₀.iteration ≤ iteration ∧
        budget s' = budget { s₀ with iteration := iteration })
      (Nodes.recoverActions s) m := by
  refine conducts_call trivial (fun _ => rfl) fun _ => ?_
  refine conducts_step trivial fun actions => ?_
  have listing := before.list phase actions
  refine conducts_bind (adoptObservations_adopts listing listing.phase) ?_
  rintro t m' ⟨kept, complete⟩
  exact resumeActions_resumes kept rfl complete

theorem announceConversation_serves (before : Continues s₀ m₀ s m) :
    Serves s₀ m₀ (Nodes.announceConversation run s) m := by
  unfold Nodes.announceConversation
  split
  · exact saveState_serves (before.same rfl)
  · exact before

theorem observe_resumes (coherent : Coherent m s)
    (resuming : m.phase = .resuming s.currentActionId none) :
    Conducts (fun s' m' => Resumed runtime s s' m') (Nodes.observe runtime run s) m := by
  refine conducts_call trivial (fun _ => rfl) fun status => ?_
  split
  · exact ⟨coherent.running rfl, .inl (.inl rfl), .inl rfl⟩
  refine conducts_call trivial (fun _ => rfl) fun _ => ?_
  have limited : Coherent m (Nodes.withLimits runtime s) := by
    obtain ⟨sequence, observations, bound, started, resumes⟩ := coherent
    exact ⟨sequence, observations, bound, started, resumes⟩
  refine conducts_bind (saveState_serves (.refl limited)) fun t m' kept => ?_
  refine conducts_call trivial (fun _ => rfl) fun policy => ?_
  split
  · refine conducts_bind (loadResources_reports kept) fun (loaded, u) m'' kept => ?_
    cases loaded with
    | error text =>
      refine ⟨kept.coherent.running rfl, .inl (.inr rfl), .inr ?_⟩
      exact ⟨s.iteration, Nat.le_refl _, budget_of_frame kept.frame⟩
    | ok _ =>
      refine conducts_bind (announceConversation_serves run kept) fun v m''' kept => ?_
      refine wp_mono (recoverActions_resumes kept resuming) ?_
      rintro s' _ ⟨running, found, moved⟩
      exact ⟨running, .inr found, .inr moved⟩
  · refine conducts_bind (failForPolicyBlock_serves kept _ _) fun u m'' kept => ?_
    exact ⟨kept.coherent.running rfl, .inl (.inl rfl), .inl rfl⟩

end Observe

theorem body_visits (runtime : AgentRuntime) (run : Run) {node : Node} (later : node ≠ .observe)
    (coherent : Coherent m s) (running : m.phase = .running) :
    Conducts (fun s' m' => Visited runtime node s s' m') (body runtime run node s) m := by
  have passes {node : Node} {p : Task AgentRuntimeState} (passed : Passes p s m)
      (same : ∀ s', budget s' = budget s → Moved runtime node s s') :
      Conducts (fun s' m' => Visited runtime node s s' m') p m :=
    wp_mono passed fun s' _ ran => ⟨ran.phase, ran.coherent, same s' ran.budget⟩
  cases node with
  | observe => exact absurd rfl later
  | decide => exact decide_visits runtime run coherent running
  | policy => exact passes (policy_passes coherent running) fun _ same => same
  | act => exact passes (act_passes coherent running) fun _ same => same
  | observeResult =>
    exact passes (observeResult_passes runtime run coherent running) fun _ same => same
  | verify => exact passes (verify_passes run coherent running) fun _ same => same
  | repair => exact repair_visits runtime coherent running
  | replan => exact passes (replan_passes coherent running) fun _ same => same
  | complete => exact passes (complete_passes coherent running) fun _ same => same
  | waitUser => exact passes (waitUser_passes coherent running) fun _ same => same
  | fail => exact passes (fail_passes coherent running) fun _ same => same

end Taroai.Agent
