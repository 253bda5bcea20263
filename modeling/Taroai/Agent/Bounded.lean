import Mathlib
import Taroai.Agent.Restart
import Taroai.Agent.Routes

/-! An execution of the graph stops by itself, below the recursion limit that `graph.invoke` is
given: every way through the graph that comes back to `decide` has used up an iteration. -/

namespace Taroai.Agent

section Bounded

variable {runtime : AgentRuntime} {run : Run} {node node' : Node} {s s' : AgentRuntimeState}
  {answers : Answers}

theorem moved_of_visit (started : Started s)
    (visited : (body runtime run node s).result answers 0 = some s') : Moved runtime node s s' := by
  have coherent := Mode.restored_coherent started
  by_cases first : node = .observe
  · subst first
    obtain ⟨_, resumed⟩ := (observe_resumes runtime run coherent rfl).returned visited
    exact resumed.moved
  · have running : Coherent { Mode.restored s with phase := .running } s := coherent.running rfl
    obtain ⟨_, visited⟩ := (body_visits runtime run first running rfl).returned visited
    exact visited.moved

def iterationsLeft (s : AgentRuntimeState) : Nat := s.maxIterations - s.iteration

/-- The visits an execution has left at most; it takes five for an iteration. -/
def visitsLeft (runtime : AgentRuntime) (node : Node) (s : AgentRuntimeState) : Nat :=
  match node with
  | .observe => 5 * runtime.loopMaxIterations + 7
  | .policy => 5 * iterationsLeft s + 6
  | .act => 5 * iterationsLeft s + 5
  | .observeResult | .verify => 5 * iterationsLeft s + 4
  | .repair | .replan => 5 * iterationsLeft s + 3
  | .decide => 5 * iterationsLeft s + 2
  | .complete | .waitUser | .fail => 1

def decisionsLeft (runtime : AgentRuntime) (node : Node) (s : AgentRuntimeState) : Nat :=
  match node with
  | .observe => runtime.loopMaxIterations
  | .complete | .waitUser | .fail => 0
  | .decide | .policy | .act | .observeResult | .verify | .repair | .replan => iterationsLeft s

def repairsLeft (runtime : AgentRuntime) (node : Node) (s : AgentRuntimeState) : Nat :=
  match node with
  | .observe => runtime.loopMaxRepairs - s.repairAttempts + 1
  | .complete | .waitUser | .fail => 0
  | .decide | .policy | .act | .observeResult | .verify | .repair | .replan =>
    s.maxRepairs - s.repairAttempts + 1

/-- Beyond the iterations `decide` refuses to go on, before it asks the model. -/
def decides (node : Node) (s : AgentRuntimeState) : Nat :=
  if node = .decide ∧ s.iteration < s.maxIterations then 1 else 0

def repairs (node : Node) (_ : AgentRuntimeState) : Nat := if node = .repair then 1 else 0

theorem of_budget {iteration attempt limit repairLimit attempts : Nat}
    (same : budget s' = (iteration, attempt, limit, repairLimit, attempts))
    (reached : attempt ≤ iteration) : Started s' ∧ iterationsLeft s' = limit - iteration ∧
      s'.maxRepairs = repairLimit ∧ s'.repairAttempts = attempts := by
  simp only [budget, Prod.mk.injEq] at same
  obtain ⟨rfl, rfl, rfl, rfl, rfl⟩ := same
  exact ⟨reached, rfl, rfl, rfl⟩

theorem visit_pays (started : Started s) (moved : Moved runtime node s s')
    (leads : next node s'.graphRoute = some (.to node')) :
    Started s' ∧ visitsLeft runtime node' s' < visitsLeft runtime node s ∧
      decisionsLeft runtime node' s' + decides node s ≤ decisionsLeft runtime node s ∧
      repairsLeft runtime node' s' + repairs node s ≤ repairsLeft runtime node s := by
  unfold next at leads
  unfold Started at started
  cases node with
  | observe =>
    simp only [edges, Option.ite_none_right_eq_some, Option.some.injEq, List.mem_cons] at leads
    obtain ⟨among, route⟩ := leads
    rw [route] at among
    obtain ended | ⟨iteration, later, same⟩ := moved
    · rw [route] at ended
      cases ended
    obtain ⟨kept, left_, limit, attempts⟩ := of_budget same (Nat.le_trans started later)
    simp only [Nodes.withLimits] at left_ limit attempts
    refine ⟨kept, ?_⟩
    cases node' <;> simp_all [visitsLeft, decisionsLeft, repairsLeft, decides, repairs] <;> omega
  | decide =>
    simp only [edges, Option.ite_none_right_eq_some, Option.some.injEq, List.mem_cons] at leads
    obtain ⟨among, route⟩ := leads
    rw [route] at among
    obtain ⟨same, refused⟩ | ⟨within, same⟩ := moved
    · rw [route] at refused
      refine ⟨(of_budget same started).1, ?_⟩
      cases node' <;> simp_all [visitsLeft, decisionsLeft, repairsLeft, decides, repairs]
      simp only [iterationsLeft] at *
      split <;> omega
    · obtain ⟨kept, left_, limit, attempts⟩ := of_budget same (Nat.le_succ_of_le started)
      have spent : iterationsLeft s' + 1 = iterationsLeft s := by
        rw [left_]
        change s.maxIterations - (s.iteration + 1) + 1 = s.maxIterations - s.iteration
        omega
      simp only [Nodes.nextCycle] at limit attempts
      refine ⟨kept, ?_⟩
      cases node' <;> simp_all [visitsLeft, decisionsLeft, repairsLeft, decides, repairs] <;> omega
  | repair =>
    simp only [edges, Option.ite_none_right_eq_some, Option.some.injEq, List.mem_cons] at leads
    obtain ⟨among, route⟩ := leads
    rw [route] at among
    obtain ⟨-, ended⟩ | ⟨same, again⟩ := moved
    · rw [route] at ended
      cases ended
    obtain ⟨kept, left_, limit, attempts⟩ := of_budget same started
    change _ = iterationsLeft s at left_
    rw [route] at again
    refine ⟨kept, ?_⟩
    cases node' <;> simp_all [visitsLeft, decisionsLeft, repairsLeft, decides, repairs]
    omega
  | policy | act | observeResult | verify =>
    simp only [edges, Option.ite_none_right_eq_some, Option.some.injEq, List.mem_cons] at leads
    obtain ⟨among, route⟩ := leads
    rw [route] at among
    obtain ⟨kept, left_, limit, attempts⟩ := of_budget moved started
    change _ = iterationsLeft s at left_
    refine ⟨kept, ?_⟩
    cases node' <;> simp_all [visitsLeft, decisionsLeft, repairsLeft, decides, repairs]
  | replan =>
    cases leads
    obtain ⟨kept, left_, limit, attempts⟩ := of_budget moved started
    change _ = iterationsLeft s at left_
    refine ⟨kept, ?_⟩
    simp_all [visitsLeft, decisionsLeft, repairsLeft, decides, repairs]
  | complete | waitUser | fail => cases leads

theorem visit_affords (runtime : AgentRuntime) (node : Node) (s : AgentRuntimeState) :
    0 < visitsLeft runtime node s ∧ decides node s ≤ decisionsLeft runtime node s ∧
      repairs node s ≤ repairsLeft runtime node s := by
  cases node <;> simp [visitsLeft, decisionsLeft, repairsLeft, decides, repairs]
  unfold iterationsLeft
  split <;> omega

def Position.count (f : Node → AgentRuntimeState → Nat) : Position → Nat
  | .at node s => f node s
  | .ended _ | .undeclared _ _ | .raised _ => 0

def Position.Begun : Position → Prop
  | .at _ s => Started s
  | .ended _ | .undeclared _ _ | .raised _ => True

theorem step_pays {p p' : Position} (begun : p.Begun)
    (stepped : p.step runtime run answers = some p') :
    p'.Begun ∧ p'.count (visitsLeft runtime) < p.count (visitsLeft runtime) ∧
      p'.count (decisionsLeft runtime) + p.count decides ≤ p.count (decisionsLeft runtime) ∧
      p'.count (repairsLeft runtime) + p.count repairs ≤ p.count (repairsLeft runtime) := by
  cases p with
  | «at» node s =>
    have affords := visit_affords runtime node s
    simp only [Position.step] at stepped
    cases visited : (body runtime run node s).result answers 0 with
    | none =>
      rw [visited] at stepped
      cases stepped
      simpa [Position.count, Position.Begun] using affords
    | some s' =>
      rw [visited] at stepped
      obtain rfl := Option.some.inj stepped
      unfold leave
      cases leads : next node s'.graphRoute with
      | none => simpa [Position.count, Position.Begun] using affords
      | some route =>
        cases route with
        | ended => simpa [Position.count, Position.Begun] using affords
        | «to» node' => exact visit_pays begun (moved_of_visit begun visited) leads
  | ended | undeclared | raised => cases stepped

/-- The limit that `execute_run` gives to `graph.invoke`. -/
def AgentRuntime.recursionLimit (runtime : AgentRuntime) : Nat := runtime.loopMaxIterations * 8 + 32

/-- Whatever it is answered, an execution keeps to its budgets of decisions and repairs, and stops
by itself. -/
theorem execution_bounded (started : Started s) (runtime : AgentRuntime) (run : Run) :
    (∀ visits : List Answers,
      Machine.tally (Position.step runtime run) (fun p _ => p.count decides) (.at .observe s)
          visits ≤ runtime.loopMaxIterations ∧
        Machine.tally (Position.step runtime run) (fun p _ => p.count repairs) (.at .observe s)
          visits ≤ runtime.loopMaxRepairs - s.repairAttempts + 1) ∧
    ∀ visits : Nat → Answers, ∃ n ≤ 5 * runtime.loopMaxIterations + 7, n < runtime.recursionLimit ∧
      ∃ p, Machine.run (Position.step runtime run) (.at .observe s)
        ((List.range n).map visits) = some p ∧ ∀ node t, p ≠ .at node t := by
  have begun : (Position.at .observe s).Begun := started
  have pays := fun p (answers : Answers) p' begun => @step_pays runtime run answers p p' begun
  refine ⟨fun visits => ⟨?_, ?_⟩, fun visits => ?_⟩
  · exact Machine.tally_le (Position.count (decisionsLeft runtime)) (fun p a p' begun stepped =>
      ⟨(pays p a p' begun stepped).1, (pays p a p' begun stepped).2.2.1⟩) begun visits
  · exact Machine.tally_le (Position.count (repairsLeft runtime)) (fun p a p' begun stepped =>
      ⟨(pays p a p' begun stepped).1, (pays p a p' begun stepped).2.2.2⟩) begun visits
  · obtain ⟨n, within, p, ran, stopped⟩ := Machine.stops (Position.count (visitsLeft runtime))
      (fun p a p' begun stepped =>
        ⟨(pays p a p' begun stepped).1, (pays p a p' begun stepped).2.1⟩) begun visits
    have few : n ≤ 5 * runtime.loopMaxIterations + 7 := within
    refine ⟨n, few, by unfold AgentRuntime.recursionLimit; omega, p, ran, ?_⟩
    rintro node t rfl
    simp only [Position.step] at stopped
    split at stopped <;> cases stopped

end Bounded

/-- Twenty iterations end in 107 visits, of the 192 that are allowed. -/
theorem freshState_bounded : limits.recursionLimit = 192 ∧
    ∀ visits : Nat → Answers, ∃ n ≤ 107, n < limits.recursionLimit ∧
      ∃ p, Machine.run (Position.step limits ⟨.autonomous, false⟩) (.at .observe freshState)
        ((List.range n).map visits) = some p ∧ ∀ node t, p ≠ .at node t :=
  have started : Started freshState := Nat.le_refl 0
  ⟨rfl, (execution_bounded started limits ⟨.autonomous, false⟩).2⟩

end Taroai.Agent
