import Taroai.Agent.Nodes
import Taroai.Lib.Machine

/-! The graph of `agent/graph.py`, and executions of it. One step is the visit of a node under
an environment that answers every call of the node, so the moments at which a run is cancelled,
the models and the tools are all choices of the environment. A conditional edge fails when the
route of the node is not among its targets. Only `verify` and `repair` set such a route: they end
the run when they see it cancelled, and `verify` when the verifier refuses, but have no edge to
the end. -/

namespace Taroai.Agent

inductive Edges where
  | conditional (targets : List AgentGraphRoute)
  | always (next : AgentGraphRoute)
deriving DecidableEq, Repr

/-- `build_runtime_graph` -/
def edges : Node → Edges
  | .observe => .conditional [.to .decide, .to .policy, .to .fail, .ended]
  | .decide =>
    .conditional
      [.to .policy, .to .verify, .to .complete, .to .replan, .to .waitUser, .to .fail, .ended]
  | .policy => .conditional [.to .act, .to .fail, .ended]
  | .act => .conditional [.to .observeResult, .to .fail, .ended]
  | .observeResult =>
    .conditional [.to .decide, .to .complete, .to .repair, .to .fail, .ended]
  | .verify =>
    .conditional [.to .complete, .to .repair, .to .replan, .to .waitUser, .to .fail]
  | .repair => .conditional [.to .decide, .to .fail]
  | .replan => .always (.to .decide)
  | .complete => .always .ended
  | .waitUser => .always .ended
  | .fail => .always .ended

/-- Where the route leads from the node; nothing where the edge fails. -/
def next (node : Node) (route : AgentGraphRoute) : Option AgentGraphRoute :=
  match edges node with
  | .conditional targets => if route ∈ targets then some route else none
  | .always target => some target

def Declared (node : Node) (route : AgentGraphRoute) : Prop :=
  (next node route).isSome = true

instance (node : Node) (route : AgentGraphRoute) : Decidable (Declared node route) :=
  inferInstanceAs (Decidable (_ = _))

section Execution

variable (runtime : AgentRuntime) (run : Run)

def body : Node → AgentRuntimeState → Task AgentRuntimeState
  | .observe => Nodes.observe runtime run
  | .decide => Nodes.decide run
  | .policy => Nodes.policy
  | .act => Nodes.act
  | .observeResult => Nodes.observeResult runtime run
  | .verify => Nodes.verify run
  | .repair => Nodes.repair
  | .replan => Nodes.replan
  | .complete => Nodes.complete
  | .waitUser => Nodes.waitUser
  | .fail => Nodes.fail

inductive Position where
  | at (node : Node) (state : AgentRuntimeState)
  | ended (state : AgentRuntimeState)
  | undeclared (node : Node) (route : AgentGraphRoute)
  | raised (node : Node)
deriving DecidableEq, Repr

/-- The answers of the environment to the calls of a visit, by their number. -/
abbrev Answers := Nat → Environment

def leave (node : Node) (state : AgentRuntimeState) : Position :=
  match next node state.graphRoute with
  | some (.to node') => .at node' state
  | some .ended => .ended state
  | none => .undeclared node state.graphRoute

def Position.step : Position → Answers → Option Position
  | .at node state, answers =>
    match (body runtime run node state).result answers 0 with
    | some state' => some (leave node state')
    | none => some (.raised node)
  | .ended _, _ | .undeclared _ _, _ | .raised _, _ => none

end Execution

def refuses (state : AgentRuntimeState) (answers : Answers) : Bool :=
  match answers 1 (.ask .verifier) with
  | .error (.safetyRefusal message) =>
    ((Services.recordModelGatewayFailure state "model_safety_refusal" message).result
      answers 2).isSome
  | .error _ | .ok _ => false

def cancelledMeanwhile (answers : Answers) : Bool :=
  match answers 1 (.ask .verifier) with
  | .ok _ => answers 2 .isCancelled
  | .error _ => false

/-- The visit comes to end the run where its node has no edge to the end: `verify` asks whether
the run is cancelled, then the verifier, then about the run again; `repair` asks once. -/
def stopsWithoutEdge (node : Node) (state : AgentRuntimeState) (answers : Answers) : Bool :=
  match node with
  | .verify =>
    answers 0 .isCancelled ||
      (state.lastDecision.isSome && (refuses state answers || cancelledMeanwhile answers))
  | .repair => answers 0 .isCancelled
  | .observe | .decide | .policy | .act | .observeResult | .replan | .complete | .waitUser
  | .fail => false

def Position.Provided : Position → Answers → Prop
  | .at node state, answers => stopsWithoutEdge node state answers = false
  | .ended _, _ | .undeclared _ _, _ | .raised _, _ => True

def Position.Died (p : Position) : Prop := ∃ node route, p = .undeclared node route

end Taroai.Agent
