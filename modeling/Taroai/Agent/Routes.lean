import Taroai.Agent.Graph

/-! Which routes the nodes set. Every node but `verify` and `repair` sets declared routes only,
whatever its calls answer; these two set an undeclared one exactly when they come to end the run
themselves. An execution of the graph dies on an undeclared route exactly at such a visit. -/

namespace Taroai.Agent

open Program (wp wp_bind wp_mono wp_of_forall wp_times result_of_wp result_bind_eq_some
  result_bind_pure)
open Services (stop stopIfCancelled saveState)

/-- Every value that the program returns satisfies `Q`. -/
def Yields {α : Type} (Q : α → Prop) (p : Task α) : Prop :=
  wp .anything (fun a _ => Q a) (fun _ => True) p ()

/-- The program returns, and what it returns satisfies `Q`. -/
def Completes {α : Type} (Q : α → Prop) (p : Task α) : Prop :=
  wp .anything (fun a _ => Q a) (fun _ => False) p ()

section Rules

variable {α β : Type} {Q : β → Prop}

theorem Yields.raise : Yields Q (.raise : Task β) := trivial

theorem Yields.bind {p : Task α} {f : α → Task β} (each : ∀ a, Yields Q (f a)) :
    Yields Q (p >>= f) :=
  wp_bind (wp_of_forall (fun _ _ => trivial) (fun _ => trivial) fun a _ => each a)

theorem Yields.result {p : Task β} (yields : Yields Q p) {answers : Answers} {n : Nat} {b : β}
    (returned : p.result answers n = some b) : Q b :=
  (result_of_wp answers yields).1 b returned

theorem Completes.bind {P : α → Prop} {p : Task α} {f : α → Task β} (first : Completes P p)
    (each : ∀ a, P a → Completes Q (f a)) : Completes Q (p >>= f) :=
  wp_bind (wp_mono first fun a _ holds => each a holds)

theorem Completes.call {c : Call} {f : c.Answer → Task β} (each : ∀ a, Completes Q (f a)) :
    Completes Q (Agent.call c >>= f) :=
  ⟨trivial, fun a _ _ => each a⟩

theorem Completes.result {p : Task β} (completes : Completes Q p) (answers : Answers) (n : Nat) :
    ∃ b, p.result answers n = some b ∧ Q b := by
  obtain ⟨returned, raised⟩ := result_of_wp answers completes (n := n)
  cases outcome : p.result answers n with
  | none => exact (raised outcome).elim
  | some b => exact ⟨b, rfl, returned b outcome⟩

end Rules

abbrev Routes (node : Node) : Task AgentRuntimeState → Prop :=
  Yields fun state => Declared node state.graphRoute

theorem routes_route {node : Node} {route : AgentGraphRoute} (declared : Declared node route)
    (state : AgentRuntimeState) : Routes node (pure (Nodes.route state route)) := declared

theorem routes_failure {node : Node} (declared : Declared node (.to .fail))
    (state : AgentRuntimeState) (code : String) (detail : Option String) :
    Routes node (pure (Nodes.failure state code detail)) := declared

theorem routes_after {α : Type} {node : Node} {route : AgentGraphRoute} {p : Task α}
    {f : α → AgentRuntimeState} (declared : Declared node route) :
    Routes node (p >>= fun a => pure (Nodes.route (f a) route)) :=
  Yields.bind fun _ => declared

section Services

theorem saveState_completes (state : AgentRuntimeState) :
    Completes (fun _ => True) (saveState state) := by
  refine Completes.call fun status => ?_
  split
  · exact Completes.call fun _ => Completes.call fun _ => trivial
  · exact Completes.call fun _ => trivial

theorem destroyRuntimeSandboxSession_completes (state : AgentRuntimeState) :
    Completes (fun _ => True) (Services.destroyRuntimeSandboxSession state) :=
  Completes.call fun _ => wp_times (I := fun _ _ => True) trivial fun s _ _ => saveState_completes s

theorem cancelCurrentAction_completes (state : AgentRuntimeState) :
    Completes (fun _ => True) (Services.cancelCurrentAction state) := by
  unfold Services.cancelCurrentAction
  split
  · exact ⟨trivial, fun _ _ _ => trivial⟩
  · trivial

theorem stop_completes (state : AgentRuntimeState) :
    Completes (fun stopped => stopped.1 = true) (stop state) := by
  refine (cancelCurrentAction_completes state).bind fun _ _ => ?_
  refine (destroyRuntimeSandboxSession_completes _).bind fun s _ => ?_
  exact (saveState_completes s).bind fun _ _ => rfl

end Services

section Nodes

variable (runtime : AgentRuntime) (run : Run) (state : AgentRuntimeState)

theorem routes_stopIfCancelled {node : Node}
    {f : Bool × AgentRuntimeState → Task AgentRuntimeState}
    (ends : ∀ s, Routes node (f (true, s))) (goes : ∀ s, Routes node (f (false, s))) :
    Routes node (stopIfCancelled state >>= f) := by
  refine Yields.bind fun (stopped, s) => ?_
  cases stopped with
  | false => exact goes s
  | true => exact ends s

theorem resumeActions_routes (actions : List AgentAction) :
    Routes .observe (Nodes.resumeActions state actions) := by
  unfold Nodes.resumeActions
  split
  · exact routes_after (f := id) (by decide)
  · split
    · exact routes_after (f := id) (by decide)
    · split <;> exact routes_route (by decide) _

theorem observe_routes : Routes .observe (Nodes.observe runtime run state) := by
  refine Yields.bind fun status => ?_
  split
  · exact routes_route (by decide) _
  refine Yields.bind fun _ => Yields.bind fun _ => Yields.bind fun policy => ?_
  split
  · refine Yields.bind fun (loaded, s) => ?_
    cases loaded with
    | error text => exact routes_route (by decide) _
    | ok _ =>
      refine Yields.bind fun s => Yields.bind fun _ => Yields.bind fun actions => ?_
      exact Yields.bind fun s => resumeActions_routes s actions
  · exact routes_after (f := id) (by decide)

theorem decideFailed_routes (failure : ModelFailure) :
    Routes .decide (Nodes.decideFailed state failure) := by
  cases failure with
  | guardrailApproval stage key => exact routes_after (f := id) (by decide)
  | guardrailViolation reason message => exact routes_route (by decide) _
  | budgetExceeded message => exact routes_route (by decide) _
  | policyDenied message => exact routes_route (by decide) _
  | safetyRefusal message => exact routes_after (f := id) (by decide)
  | gateway message => exact Yields.bind fun _ => Yields.raise

theorem reviewResponse_routes (decision : AgentDecision) :
    Routes .decide (Nodes.reviewResponse run state decision) := by
  unfold Nodes.reviewResponse
  split
  · refine Yields.bind fun task => ?_
    split <;> exact routes_route (by decide) _
  · exact routes_route (by decide) _

theorem respond_routes (decision : AgentDecision) :
    Routes .decide (Nodes.respond run state decision) := by
  refine Yields.bind fun (unsupported, s) => ?_
  cases unsupported with
  | true => exact routes_route (by decide) _
  | false => exact reviewResponse_routes run s decision

theorem proposeAction_routes (cycleId : String) (decision : AgentDecision) :
    Routes .decide (Nodes.proposeAction state cycleId decision) := by
  unfold Nodes.proposeAction
  split
  · refine Yields.bind fun actionId => Yields.bind fun taken => ?_
    cases taken with
    | true => exact routes_route (by decide) _
    | false => exact Yields.raise
  · exact routes_route (by decide) _

theorem dispatch_routes (cycleId : String) (decision : AgentDecision) :
    Routes .decide (Nodes.dispatch run state cycleId decision) := by
  unfold Nodes.dispatch
  split
  · exact routes_route (by decide) _
  · exact routes_route (by decide) _
  · exact respond_routes run state decision
  · exact proposeAction_routes state cycleId decision

theorem followDecision_routes (cycleId : String) (decision : AgentDecision) :
    Routes .decide (Nodes.followDecision run state cycleId decision) := by
  unfold Nodes.followDecision
  split
  · exact routes_route (by decide) _
  split
  · refine Yields.bind fun (loaded, s) => ?_
    match loaded with
    | .error text => exact routes_route (by decide) _
    | .ok true => exact routes_route (by decide) _
    | .ok false => exact dispatch_routes run s cycleId decision
  · exact dispatch_routes run state cycleId decision

theorem decide_routes : Routes .decide (Nodes.decide run state) := by
  refine Yields.bind fun budget => ?_
  cases budget with
  | some code => exact routes_route (by decide) _
  | none =>
    refine routes_stopIfCancelled state (routes_route (by decide)) fun s => ?_
    refine Yields.bind fun s => Yields.bind fun cycleId => Yields.bind fun (decision, s) => ?_
    cases decision with
    | error failure => exact decideFailed_routes s failure
    | ok decision =>
      refine routes_stopIfCancelled s (routes_route (by decide)) fun s => Yields.bind fun taken => ?_
      cases taken with
      | true => exact followDecision_routes run _ cycleId decision
      | false => exact Yields.raise

theorem policy_routes : Routes .policy (Nodes.policy state) := by
  refine routes_stopIfCancelled state (routes_route (by decide)) fun s => Yields.bind fun action => ?_
  cases action with
  | none => exact routes_route (by decide) _
  | some action =>
    refine Yields.bind fun policy => ?_
    split
    · refine Yields.bind fun required => ?_
      cases required with
      | true => exact routes_after (f := id) (by decide)
      | false => exact routes_route (by decide) _
    · exact routes_after (f := id) (by decide)

theorem act_routes : Routes .act (Nodes.act state) := by
  refine routes_stopIfCancelled state (routes_route (by decide)) fun s => Yields.bind fun action => ?_
  cases action with
  | none => exact routes_route (by decide) _
  | some action =>
    refine Yields.bind fun (observation, s) => ?_
    cases observation <;> exact routes_route (by decide) _

theorem succeeded_routes (action : AgentAction) (observation : AgentObservation) :
    Routes .observeResult (pure (Nodes.succeeded run state action observation)) := by
  unfold Nodes.succeeded
  split <;> exact routes_route (by decide) _

theorem planStepFailed_routes (action : AgentAction) (observation : AgentObservation) :
    Routes .observeResult (pure (Nodes.planStepFailed runtime state action observation)) := by
  unfold Nodes.planStepFailed
  split
  · split
    · exact routes_route (by decide) _
    · exact routes_failure (by decide) _ _ _
  · exact routes_failure (by decide) _ _ _

theorem failed_routes (action : AgentAction) (observation : AgentObservation) :
    Routes .observeResult (Nodes.failed runtime state action observation) := by
  unfold Nodes.failed
  split
  · exact routes_after (f := id) (by decide)
  split
  · exact routes_route (by decide) _
  split
  · exact routes_after (f := id) (by decide)
  split
  · exact planStepFailed_routes runtime state action observation
  · exact routes_route (by decide) _

theorem observeResult_routes : Routes .observeResult (Nodes.observeResult runtime run state) := by
  refine routes_stopIfCancelled state (routes_route (by decide)) fun s => Yields.bind fun action => ?_
  cases action with
  | none => exact routes_route (by decide) _
  | some action =>
    dsimp only
    split
    · exact routes_failure (by decide) _ _ _
    · split
      · exact succeeded_routes run s action _
      · exact failed_routes runtime s action _

theorem routes_of_always {node : Node} {target : AgentGraphRoute}
    (always : edges node = .always target) (p : Task AgentRuntimeState) : Routes node p := by
  refine wp_of_forall (fun _ _ => trivial) (fun _ => trivial) fun s _ => ?_
  simp [Declared, next, always]

theorem verifierUnavailable_routes (decision : AgentDecision) (message : String) :
    Routes .verify (Nodes.verifierUnavailable run state decision message) := by
  unfold Nodes.verifierUnavailable
  split
  · exact routes_route (by decide) _
  · exact Yields.bind fun _ => Yields.raise

theorem follow_declared (result : AgentVerificationResult) :
    Declared .verify (Nodes.follow state result).graphRoute := by
  change Declared .verify (Nodes.outcomeRoute result.outcome)
  cases result.outcome <;> decide

end Nodes

section Stops

variable (run : Run) (state : AgentRuntimeState) (answers : Answers)

theorem result_stop {f : Bool × AgentRuntimeState → Task AgentRuntimeState}
    (ends : ∀ s, f (true, s) = pure (Nodes.route s .ended)) (n : Nat)
    (cancelled : answers n .isCancelled = true) :
    ∃ s, (stopIfCancelled state >>= f).result answers n = some s ∧ s.graphRoute = .ended := by
  have asked : (stopIfCancelled state >>= f).result answers n =
      ((if answers n .isCancelled then stop state else pure (false, state)) >>= f).result
        answers (n + 1) := rfl
  rw [asked, cancelled, if_pos rfl]
  refine Completes.result ((stop_completes state).bind fun (stopped, s) here => ?_) answers (n + 1)
  obtain rfl : stopped = true := here
  rw [ends s]
  rfl

theorem result_goOn {f : Bool × AgentRuntimeState → Task AgentRuntimeState} (n : Nat)
    (runs : answers n .isCancelled = false) :
    (stopIfCancelled state >>= f).result answers n = (f (false, state)).result answers (n + 1) := by
  have asked : (stopIfCancelled state >>= f).result answers n =
      ((if answers n .isCancelled then stop state else pure (false, state)) >>= f).result
        answers (n + 1) := rfl
  rw [asked, runs, if_neg Bool.false_ne_true]
  rfl

theorem result_verifier_error {failure : ModelFailure} {decision : AgentDecision}
    {f : Except ModelFailure AgentVerificationResult × AgentRuntimeState → Task AgentRuntimeState}
    (n : Nat) (failed : answers n (.ask .verifier) = .error failure) :
    (Services.verify run state decision >>= f).result answers n =
      (f (.error failure, state)).result answers (n + 1) := by
  have asked : (Services.verify run state decision >>= f).result answers n =
      ((match answers n (.ask .verifier) with
        | .error failure => pure (.error failure, state)
        | .ok none => _
        | .ok (some result) => _) >>= f).result answers (n + 1) := rfl
  rw [asked, failed]
  rfl

theorem result_verifier_ok {verdict : Option AgentVerificationResult} {decision : AgentDecision}
    {f : Except ModelFailure AgentVerificationResult × AgentRuntimeState → Task AgentRuntimeState}
    (n : Nat) (answered : answers n (.ask .verifier) = .ok verdict) :
    ∃ result s, (Services.verify run state decision >>= f).result answers n =
      (f (.ok result, s)).result answers (n + 1) := by
  have asked : (Services.verify run state decision >>= f).result answers n =
      ((match answers n (.ask .verifier) with
        | .error failure => pure (.error failure, state)
        | .ok none => _
        | .ok (some result) => _) >>= f).result answers (n + 1) := rfl
  rw [asked, answered]
  cases verdict with
  | none => exact ⟨_, _, rfl⟩
  | some result => exact ⟨_, _, rfl⟩

theorem result_recorded (message : String) {n : Nat}
    (recorded : ((Services.recordModelGatewayFailure state "model_safety_refusal" message).result
      answers n).isSome = true) :
    ∃ s, (Services.recordModelGatewayFailure state "model_safety_refusal" message >>= fun s =>
      pure (Nodes.route s .ended)).result answers n = some s ∧ s.graphRoute = .ended := by
  obtain ⟨s, returned⟩ := Option.isSome_iff_exists.mp recorded
  exact ⟨Nodes.route s .ended, result_bind_pure returned _, rfl⟩

theorem verify_stops (stops : stopsWithoutEdge .verify state answers = true) :
    ∃ s, (Nodes.verify run state).result answers 0 = some s ∧ s.graphRoute = .ended := by
  unfold Nodes.verify
  cases cancelled : answers 0 .isCancelled with
  | true => exact result_stop state answers (fun _ => rfl) 0 cancelled
  | false =>
    rw [result_goOn state answers 0 cancelled]
    rw [stopsWithoutEdge, cancelled, Bool.false_or, Bool.and_eq_true, Bool.or_eq_true] at stops
    obtain ⟨decided, refused | meanwhile⟩ := stops
    all_goals
      obtain ⟨decision, last⟩ := Option.isSome_iff_exists.mp decided
      simp only [last, Bool.false_eq_true, if_false]
    · cases answered : answers 1 (.ask .verifier) with
      | ok verdict => simp [refuses, answered] at refused
      | error failure =>
        rw [result_verifier_error run state answers 1 answered]
        cases failure with
        | safetyRefusal message =>
          simp only [refuses, answered] at refused
          exact result_recorded state answers message refused
        | _ => simp [refuses, answered] at refused
    · cases answered : answers 1 (.ask .verifier) with
      | error failure => simp [cancelledMeanwhile, answered] at meanwhile
      | ok verdict =>
        obtain ⟨result, s, same⟩ := result_verifier_ok run state answers 1 answered
        rw [same]
        simp only [cancelledMeanwhile, answered] at meanwhile
        exact result_stop s answers (fun _ => rfl) 2 meanwhile

theorem verifyFailed_declares (decision : AgentDecision) (failure : ModelFailure)
    (accepts : refuses state answers = false)
    (answered : answers 1 (.ask .verifier) = .error failure) {s : AgentRuntimeState}
    (returned : (Nodes.verifyFailed run state decision failure).result answers 2 = some s) :
    Declared .verify s.graphRoute := by
  cases failure with
  | guardrailApproval stage key => cases returned
  | guardrailViolation reason message => cases returned
  | budgetExceeded message => exact Yields.result (routes_failure (by decide) _ _ _) returned
  | policyDenied message => exact Yields.result (routes_failure (by decide) _ _ _) returned
  | gateway message =>
    exact Yields.result (verifierUnavailable_routes run state decision message) returned
  | safetyRefusal message =>
    simp only [refuses, answered, Option.isSome_eq_false_iff, Option.isNone_iff_eq_none] at accepts
    obtain ⟨s', _, recorded, -⟩ := result_bind_eq_some returned
    rw [accepts] at recorded
    cases recorded

theorem verify_declares (provided : stopsWithoutEdge .verify state answers = false)
    {s : AgentRuntimeState} (returned : (Nodes.verify run state).result answers 0 = some s) :
    Declared .verify s.graphRoute := by
  rw [stopsWithoutEdge, Bool.or_eq_false_iff] at provided
  obtain ⟨runs, provided⟩ := provided
  unfold Nodes.verify at returned
  rw [result_goOn state answers 0 runs] at returned
  cases last : state.lastDecision with
  | none =>
    simp only [last] at returned
    cases returned
    exact show Declared .verify (.to .fail) by decide
  | some decision =>
    rw [last, Option.isSome_some, Bool.true_and, Bool.or_eq_false_iff] at provided
    obtain ⟨accepts, meanwhile⟩ := provided
    simp only [last, Bool.false_eq_true, if_false] at returned
    cases answered : answers 1 (.ask .verifier) with
    | error failure =>
      rw [result_verifier_error run state answers 1 answered] at returned
      exact verifyFailed_declares run state answers decision failure accepts answered returned
    | ok verdict =>
      obtain ⟨result, s', same⟩ := result_verifier_ok run state answers 1 answered
      rw [same] at returned
      simp only [cancelledMeanwhile, answered] at meanwhile
      rw [result_goOn s' answers 2 meanwhile] at returned
      cases returned
      exact follow_declared s' result

theorem repair_stops (stops : stopsWithoutEdge .repair state answers = true) :
    ∃ s, (Nodes.repair state).result answers 0 = some s ∧ s.graphRoute = .ended :=
  result_stop state answers (fun _ => rfl) 0 stops

theorem repair_declares (provided : stopsWithoutEdge .repair state answers = false)
    {s : AgentRuntimeState} (returned : (Nodes.repair state).result answers 0 = some s) :
    Declared .repair s.graphRoute := by
  unfold Nodes.repair at returned
  rw [result_goOn state answers 0 provided] at returned
  refine Yields.result (Yields.bind fun s => ?_ :
    Routes .repair (Services.persistCheckpoint (Nodes.countRepair state) >>= _)) returned
  split
  · exact routes_failure (by decide) _ _ _
  · exact routes_route (by decide) _

end Stops

section Executions

variable (runtime : AgentRuntime) (run : Run)

theorem visit_declares {node : Node} {state s : AgentRuntimeState} {answers : Answers}
    (provided : stopsWithoutEdge node state answers = false)
    (returned : (body runtime run node state).result answers 0 = some s) :
    Declared node s.graphRoute := by
  cases node with
  | observe => exact (observe_routes runtime run state).result returned
  | decide => exact (decide_routes run state).result returned
  | policy => exact (policy_routes state).result returned
  | act => exact (act_routes state).result returned
  | observeResult => exact (observeResult_routes runtime run state).result returned
  | verify => exact verify_declares run state answers provided returned
  | repair => exact repair_declares state answers provided returned
  | replan => exact (routes_of_always (show edges .replan = .always (.to .decide) from rfl) _).result returned
  | complete => exact (routes_of_always (show edges .complete = .always .ended from rfl) _).result returned
  | waitUser => exact (routes_of_always (show edges .waitUser = .always .ended from rfl) _).result returned
  | fail => exact (routes_of_always (show edges .fail = .always .ended from rfl) _).result returned

theorem visit_stops {node : Node} {state : AgentRuntimeState} {answers : Answers}
    (stops : stopsWithoutEdge node state answers = true) :
    ∃ s, (body runtime run node state).result answers 0 = some s ∧
      ¬Declared node s.graphRoute := by
  cases node with
  | verify =>
    obtain ⟨s, returned, route⟩ := verify_stops run state answers stops
    exact ⟨s, returned, by rw [route]; decide⟩
  | repair =>
    obtain ⟨s, returned, route⟩ := repair_stops state answers stops
    exact ⟨s, returned, by rw [route]; decide⟩
  | _ => cases stops

theorem leave_died_iff (node : Node) (state : AgentRuntimeState) :
    (leave node state).Died ↔ ¬Declared node state.graphRoute := by
  unfold leave Declared Position.Died
  cases found : next node state.graphRoute with
  | none => simp
  | some target => cases target <;> simp

theorem step_died_iff {p p' : Position} {answers : Answers}
    (moved : p.step runtime run answers = some p') : ¬p'.Died ↔ p.Provided answers := by
  cases p with
  | ended state => cases moved
  | undeclared node route => cases moved
  | raised node => cases moved
  | «at» node state =>
    change _ ↔ stopsWithoutEdge node state answers = false
    simp only [Position.step] at moved
    cases returned : (body runtime run node state).result answers 0 with
    | none =>
      rw [returned] at moved
      cases moved
      refine iff_of_true (fun ⟨_, _, same⟩ => by cases same) (eq_false_of_ne_true fun stops => ?_)
      obtain ⟨s, some, -⟩ := visit_stops runtime run stops
      rw [returned] at some
      cases some
    | some s =>
      rw [returned] at moved
      cases moved
      rw [leave_died_iff, not_not]
      refine ⟨fun declared => eq_false_of_ne_true fun stops => ?_,
        fun provided => visit_declares runtime run provided returned⟩
      obtain ⟨s', some, undeclared⟩ := visit_stops runtime run stops
      rw [returned] at some
      cases some
      exact undeclared declared

/-- No execution of the graph, from any node and state, dies on an undeclared route if and only
if none of its visits comes to end the run where its node has no edge to the end. -/
theorem never_dies_iff (p : Position) (visits : List Answers) :
    Machine.Along (Position.step runtime run) (fun _ _ p' => ¬p'.Died) p visits ↔
      Machine.Conforms (Position.step runtime run) Position.Provided p visits := by
  refine Machine.along_congr (Q := fun p answers _ => Position.Provided p answers) ?_
  exact fun p answers p' moved => step_died_iff runtime run moved

end Executions

/-- An environment in which nothing goes wrong; the model responds at once and wants its response
verified. -/
def smooth : Environment
  | .getRun => .running
  | .isCancelled => false
  | .updateRunStatus _ => ()
  | .loadState => none
  | .saveState _ => ()
  | .latestCheckpoint => none
  | .createCheckpoint _ _ => true
  | .createCycle _ _ => true
  | .recoverExpiredActions => []
  | .listActions => []
  | .createAction _ => true
  | .getAction _ => none
  | .claimAction _ => none
  | .renewLease _ _ => true
  | .commitObservation _ _ _ _ => some 1
  | .cancelAction _ => ()
  | .pauseForReconnect _ _ => true
  | .updateApprovalExecution _ _ => ()
  | .ask .newId => "id"
  | .ask .runtimeExecution => { allowed := true }
  | .ask (.runtimeStep _) => { allowed := true }
  | .ask .agentContext => { result := .ok () }
  | .ask .explicitSkillRefs => { result := .ok () }
  | .ask .deadlinePassed => false
  | .ask .costExhausted => false
  | .ask .steeringMessages => []
  | .ask .plan => .ok []
  | .ask .model =>
    { result := .ok (some { decision := { kind := .respond, responseText := some "Done." } }) }
  | .ask (.selectedSkill _) => { result := .ok false }
  | .ask (.unsupportedUrls _) => false
  | .ask (.groundedResponse _) => none
  | .ask .isWorkflowTask => false
  | .ask (.requiresApproval _) => false
  | .ask (.createApprovalRequest _) => "approval"
  | .ask .preservesCurrentStep => false
  | .ask (.preparedStep _) => { result := .ok () }
  | .ask (.tool _ _) => { result := .ok { output := {} } }
  | .ask (.connectorUsesOauth _) => false
  | .ask .verifier => .ok (some { outcome := .complete })
  | .ask .finalResponse => "Done."
  | .ask .runtimeSnapshot => 0
  | .ask .pausedThreadSandbox => true
  | .ask .sandboxDestroyed => 0

/-- The user cancels while the verifier works: the second time `verify` asks, the run is
cancelled. -/
def cancelledMidway : Answers := fun n c =>
  match c with
  | .isCancelled => decide (n = 2)
  | c => smooth c

def limits : AgentRuntime := { loopMaxIterations := 20, loopMaxRepairs := 4, maxStepRetries := 1 }

def freshState : AgentRuntimeState := { status := .queued, maxIterations := 20, maxRepairs := 4 }

/-- An execution from the start observes, decides on a response, and dies in `verify` when the
run is cancelled while the verifier works. -/
theorem cancelled_while_verifying :
    ¬Machine.Along (Position.step limits { mode := .autonomous, hasThread := false })
      (fun _ _ p' => ¬p'.Died) (.at .observe freshState)
      [fun _ => smooth, fun _ => smooth, cancelledMidway] := by
  intro along
  let step := Position.step limits { mode := .autonomous, hasThread := false }
  let visits : List Answers := [fun _ => smooth, fun _ => smooth]
  have ran := Machine.run_final step (.at .observe freshState) visits rfl
  exact Machine.Along.at_prefix visits along ran rfl ⟨.verify, .ended, rfl⟩

end Taroai.Agent
