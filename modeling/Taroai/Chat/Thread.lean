import Taroai.Domain
import Taroai.Lib.Program

/-! The dispatch of messages to runs on one thread: the records of the store that it reads, the
calls to the store, and `post_message` and `continue_thread` of `chat/service.py` as programs of
these calls. A message is named by its sequence, which is unique in the thread, and the list is
in the order of the sequences, as the store lists it. Contents, attachments and the model
selection itself, which no step compares, are left out. -/

namespace Taroai.Chat

inductive ChatMessageDispatchStatus where
  | ready
  | queued
  | steering
  | inflight
  | completed
  | cancelled
  | failed
deriving DecidableEq, Repr

inductive DeliveryMode where
  | auto
  | queue
  | manual
  | steer
deriving DecidableEq, Repr

structure ChatMessage where
  sequence : Nat
  /-- The kind is `manual_queue`. -/
  manual : Bool
  dispatchStatus : ChatMessageDispatchStatus
deriving DecidableEq, Repr

structure ThreadRun where
  id : Nat
  status : RunStatus
  triggerMessage : Nat
deriving DecidableEq, Repr

structure ThreadStore where
  active : Bool := true
  messages : List ChatMessage := []
  runs : List ThreadRun := []
deriving DecidableEq, Repr

structure MessageDispatch where
  message : Nat
  run : Nat
  runStarted : Bool
deriving DecidableEq, Repr

namespace ChatMessage

/-- The candidates of `claim_next_queued_message`. -/
def dispatchable (message : ChatMessage) : Bool :=
  (message.dispatchStatus = .ready || message.dispatchStatus = .queued) && !message.manual

/-- A later dispatch may still take the message, at once or after it was steering. -/
def open? (message : ChatMessage) : Bool :=
  message.dispatchable || message.dispatchStatus = .steering

end ChatMessage

namespace ThreadStore

def activeRun (s : ThreadStore) : Option ThreadRun :=
  (s.runs.filter fun run => !run.status.terminal).getLast?

def nextSequence (s : ThreadStore) : Nat :=
  (s.messages.map ChatMessage.sequence).foldr max 0 + 1

def append (s : ThreadStore) (manual : Bool) (dispatchStatus : ChatMessageDispatchStatus) :
    ThreadStore :=
  { s with messages := s.messages ++ [⟨s.nextSequence, manual, dispatchStatus⟩] }

def updateMessage (s : ThreadStore) (sequence : Nat) (f : ChatMessage → ChatMessage) :
    ThreadStore :=
  { s with
    messages := s.messages.map fun message =>
      if message.sequence = sequence then { f message with sequence := message.sequence }
      else message }

def setDispatch (s : ThreadStore) (sequence : Nat) (dispatchStatus : ChatMessageDispatchStatus) :
    ThreadStore :=
  s.updateMessage sequence fun message => { message with dispatchStatus := dispatchStatus }

def delete (s : ThreadStore) (sequence : Nat) : ThreadStore :=
  { s with messages := s.messages.filter fun message => message.sequence ≠ sequence }

def pendingSteering (s : ThreadStore) : List Nat :=
  (s.messages.filter fun message => message.dispatchStatus = .steering).map ChatMessage.sequence

def nextQueued (s : ThreadStore) : Option Nat :=
  (s.messages.find? ChatMessage.dispatchable).map ChatMessage.sequence

def createQueuedRun (s : ThreadStore) (triggerMessage : Nat) : ThreadRun :=
  ⟨s.runs.length, .queued, triggerMessage⟩

def addRun (s : ThreadStore) (run : ThreadRun) : ThreadStore := { s with runs := s.runs ++ [run] }

def setRunStatus (s : ThreadStore) (runId : Nat) (status : RunStatus) : ThreadStore :=
  { s with
    runs := s.runs.map fun run => if run.id = runId then { run with status := status } else run }

end ThreadStore

inductive ThreadCall where
  | getThread
  | resolveSelection
  | getActiveRun
  | steeringAvailable
  | appendMessage (manual : Bool) (dispatchStatus : ChatMessageDispatchStatus)
  | listPendingSteering
  | updateMessage (sequence : Nat) (dispatchStatus : ChatMessageDispatchStatus)
  /-- The update of `_start_run`, which sets the kind too. -/
  | updateKind (sequence : Nat) (dispatchStatus : ChatMessageDispatchStatus) (manual : Bool)
  | claimNextQueuedMessage
  | createQueuedThreadRunIfAbsent (triggerMessage : Nat)
  | deleteMessage (sequence : Nat)
deriving DecidableEq, Repr

/-- The answers; of a selection whether there is one, of a creation nothing when it raised. -/
@[reducible] def ThreadCall.Answer : ThreadCall → Type
  | getThread => Bool
  | resolveSelection => Bool
  | getActiveRun => Option ThreadRun
  | steeringAvailable => Bool
  | appendMessage _ _ => Nat
  | listPendingSteering => List Nat
  | updateMessage _ _ => Unit
  | updateKind _ _ _ => Unit
  | claimNextQueuedMessage => Option Nat
  | createQueuedThreadRunIfAbsent _ => Option (ThreadRun × Bool)
  | deleteMessage _ => Unit

/-- The answer to a call and the thread after it, given what the environment proposes. -/
def ThreadStore.respond (s : ThreadStore) : (c : ThreadCall) → c.Answer → c.Answer × ThreadStore
  | .getThread, _ => (s.active, s)
  | .resolveSelection, found => (found, s)
  | .getActiveRun, _ => (s.activeRun, s)
  | .steeringAvailable, available => (available, s)
  | .appendMessage manual dispatchStatus, _ => (s.nextSequence, s.append manual dispatchStatus)
  | .listPendingSteering, _ => (s.pendingSteering, s)
  | .updateMessage sequence dispatchStatus, _ => ((), s.setDispatch sequence dispatchStatus)
  | .updateKind sequence dispatchStatus manual, _ =>
    ((), s.updateMessage sequence fun message =>
      { message with dispatchStatus := dispatchStatus, manual := manual })
  | .claimNextQueuedMessage, _ =>
    match s.nextQueued with
    | none => (none, s)
    | some sequence => (some sequence, s.setDispatch sequence .inflight)
  | .createQueuedThreadRunIfAbsent triggerMessage, proposed =>
    match proposed, s.activeRun with
    | none, _ => (none, s)
    | some _, some run => (some (run, false), s)
    | some _, none =>
      let run := s.createQueuedRun triggerMessage
      (some (run, true), s.addRun run)
  | .deleteMessage sequence, _ => ((), s.delete sequence)

abbrev ThreadTask := Program ThreadCall ThreadCall.Answer

namespace ChatService

abbrev call (c : ThreadCall) : ThreadTask c.Answer := Program.perform c

def requeueSteering : List Nat → ThreadTask Unit
  | [] => return ()
  | steering :: rest => do
    call (.updateMessage steering .queued)
    requeueSteering rest

def giveBack (message : Nat) : ThreadTask (Option MessageDispatch) := do
  call (.updateMessage message .queued)
  .raise

def dispatchClaimed (message : Nat) : ThreadTask (Option MessageDispatch) := do
  if ← call .resolveSelection then
    match ← call (.createQueuedThreadRunIfAbsent message) with
    | some (run, true) => return some ⟨message, run.id, true⟩
    | some (_, false) =>
      call (.updateMessage message .queued)
      return none
    | none => giveBack message
  else giveBack message

def continueThread : ThreadTask (Option MessageDispatch) := do
  if ← call .getThread then
    match ← call .getActiveRun with
    | some _ => return none
    | none =>
      requeueSteering (← call .listPendingSteering)
      match ← call .claimNextQueuedMessage with
      | none => return none
      | some message => dispatchClaimed message
  else return none

/-- The status that `_append_to_active_run` gives a message. -/
def appendedStatus (deliveryMode : DeliveryMode) (steeringAvailable : Bool) (run : ThreadRun) :
    ChatMessageDispatchStatus :=
  if deliveryMode = .manual then .ready
  else if steeringAvailable = true ∧
      (deliveryMode = .steer ∨ deliveryMode = .auto ∧ run.status = .waitingForUser) then .steering
  else .queued

def appendToActiveRun (deliveryMode : DeliveryMode) (run : ThreadRun) :
    ThreadTask (Option MessageDispatch) := do
  let dispatchStatus := appendedStatus deliveryMode (← call .steeringAvailable) run
  let message ← call (.appendMessage (deliveryMode = .manual) dispatchStatus)
  return some ⟨message, run.id, false⟩

/-- The status of a message for which `_start_run` finds the thread taken. -/
def fallbackStatus (deliveryMode : DeliveryMode) : ChatMessageDispatchStatus :=
  match deliveryMode with
  | .manual => .ready
  | .steer => .steering
  | .auto | .queue => .queued

def startRun (deliveryMode : DeliveryMode) : ThreadTask (Option MessageDispatch) := do
  let message ← call (.appendMessage false .inflight)
  match ← call (.createQueuedThreadRunIfAbsent message) with
  | some (run, true) => return some ⟨message, run.id, true⟩
  | some (run, false) =>
    call (.updateKind message (fallbackStatus deliveryMode) (deliveryMode = .manual))
    return some ⟨message, run.id, false⟩
  | none =>
    call (.deleteMessage message)
    .raise

def postMessage (deliveryMode : DeliveryMode) : ThreadTask (Option MessageDispatch) := do
  if ← call .getThread then
    if ← call .resolveSelection then
      match ← call .getActiveRun with
      | some run => appendToActiveRun deliveryMode run
      | none => startRun deliveryMode
    else .raise
  else .raise

end ChatService

end Taroai.Chat
