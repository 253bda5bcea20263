import Taroai.Agent.Requests
import Taroai.Agent.RunStore
import Taroai.Agent.Visits

/-! The life of one run: executions of the graph one after the other, each of which may stop after
any call, and what users do meanwhile. An execution takes one call at a time; a request of a user
is taken as a whole. Between the two reads with which an execution restores the state nothing but
a request can come, and a request writes the newer state to both places, so that the restored
state is read off the store at once. -/

namespace Taroai.Agent

/-- What the answer of a human makes of an uncertain action: run it again, or take an
observation as made. -/
inductive Resolution where
  | retry
  | observed (observation : AgentObservation)

namespace RunStore

/-- What `_restore_state` returns. -/
def restored (store : RunStore) (initial : AgentRuntimeState) : AgentRuntimeState :=
  let state := store.saved.getD initial
  match store.latest with
  | none => state
  | some checkpoint =>
    if state.checkpointSequence < checkpoint.sequence then
      { checkpoint.statePayload with checkpointSequence := checkpoint.sequence }
    else state

theorem restoreState_runIn (store : RunStore) (initial : AgentRuntimeState)
    (propose : Environment) :
    (Services.restoreState initial).runIn respond propose store =
      some (some (store.restored initial), store) := by
  unfold restored
  simp only [Services.restoreState, call, Program.perform_bind, Program.runIn, respond,
    Option.bind_some]
  cases store.latest with
  | none => rfl
  | some checkpoint =>
    dsimp only
    split <;> rfl

/-- `resolve_uncertain_agent_action` -/
def resolve (store : RunStore) (actionId : String) (resolution : Resolution) : Option RunStore :=
  if (store.actions.get? actionId).any fun action => action.status = .uncertain then
    match resolution with
    | .retry => some (store.update actionId .reopened AgentAction.reopened_id)
    | .observed observation =>
      if observation.actionId = actionId then
        some (store.update actionId (fun action => action.resolved observation) fun _ => rfl)
      else none
  else none

def awaitsConnector (action : AgentAction) (connectorId : String) : Bool :=
  action.status = .uncertain && action.observation.any fun observation =>
    observation.failureClass = some "connector_reconnect_required" &&
      observation.output.connectorId = some connectorId

/-- `retry_connector_action_after_reconnect`, of an action that has not been retried so before. -/
def retryAfterReconnect (store : RunStore) (actionId connectorId : String) : Option RunStore :=
  if (store.actions.get? actionId).any fun action => awaitsConnector action connectorId then
    some (store.update actionId .reopened AgentAction.reopened_id)
  else none

end RunStore

inductive Outside where
  | request (request : Request) (propose : Environment)
  | resolve (actionId : String) (resolution : Resolution)
  | reconnect (actionId connectorId : String)
  | status (status : RunStatus)

namespace Outside

/-- The store afterwards; nothing where the store refuses. A request that raises keeps what it
wrote. -/
def apply (runtime : AgentRuntime) (store : RunStore) : Outside → Option RunStore
  | .request made propose =>
    ((made.task runtime).runIn RunStore.respond propose store).map Prod.snd
  | .resolve actionId resolution => store.resolve actionId resolution
  | .reconnect actionId connectorId => store.retryAfterReconnect actionId connectorId
  | .status now => some { store with runStatus := now }

end Outside

structure Session where
  node : Node
  rest : Task AgentRuntimeState
  mode : Mode

def Mode.restored (state : AgentRuntimeState) : Mode where
  bound := state.iteration
  sequence := state.checkpointSequence
  observations := state.observations
  phase := .resuming state.currentActionId none

def Mode.resumed (m : Mode) (state : AgentRuntimeState) : Mode :=
  { m with phase := .running, bound := state.iteration }

namespace Session

variable (runtime : AgentRuntime) (run : Run)

def start (entry : Entry) (state : AgentRuntimeState) : Session where
  node := .observe
  rest := executeRun runtime run entry state
  mode := .restored state

/-- The node to which the route of the state leads; nothing at the end of the execution. -/
def enter (session : Session) (state : AgentRuntimeState) : Option Session :=
  match leave session.node state with
  | .at node state =>
    some { node := node, rest := body runtime run node state, mode := session.mode.resumed state }
  | .ended _ | .undeclared _ _ | .raised _ => none

def proceed (store : RunStore) (propose : Environment) (session : Session) :
    Option (Option Session × RunStore) :=
  match session.rest with
  | .pure state => some (session.enter runtime run state, store)
  | .raise => some (none, store)
  | .call c next => do
    let (answer, store) ← store.respond c (propose c)
    return (some { session with rest := next answer, mode := session.mode.after c answer }, store)

end Session

structure System where
  store : RunStore
  live : Option Session := none

inductive Event where
  | start (entry : Entry)
  | proceed (propose : Environment)
  | stop
  | outside (outside : Outside)

namespace System

def init : System where
  store := { runStatus := .created }

def restored (runtime : AgentRuntime) (s : System) : AgentRuntimeState :=
  s.store.restored (initialState runtime s.store.runStatus)

variable (runtime : AgentRuntime) (run : Run)

def step (s : System) : Event → Option System
  | .start entry =>
    match s.live with
    | none => some { s with live := some (Session.start runtime run entry (s.restored runtime)) }
    | some _ => none
  | .proceed propose =>
    match s.live with
    | some session => do
      let (live, store) ← session.proceed runtime run s.store propose
      return { live, store }
    | none => none
  | .stop => s.live.map fun _ => { s with live := none }
  | .outside outside => (outside.apply runtime s.store).map fun store => { s with store }

end System

end Taroai.Agent
