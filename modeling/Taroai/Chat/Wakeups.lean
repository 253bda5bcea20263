import Mathlib.Logic.Function.Basic
import Taroai.Chat.DispatchOrder
import Taroai.Lib.Machine

/-! Wake-ups of one thread. API processes post messages and worker processes continue the thread,
each one call at a time under its own named lock, while the accesses of different processes to
the store interleave. A run that ends leaves its worker one continuation due. The ghost stage of
a call says how far its dispatch is. -/

namespace Taroai.Chat

open ChatService

inductive Stage where
  | entered (continuing : Bool)
  /-- A post that saw a run which had not ended. -/
  | busy
  | free (continuing : Bool)
  | converting (steering : List Nat)
  | holding (message : Nat) (continuing : Bool)
  | failing (message : Nat) (continuing : Bool)
  | refused
  | closed
deriving DecidableEq, Repr

namespace Stage

def window : Stage → Bool
  | free _ | converting _ | holding _ _ | failing _ _ => true
  | entered _ | busy | refused | closed => false

def hopeful : Stage → Bool
  | entered continuing => continuing
  | free _ | converting _ | holding _ _ | failing _ _ => true
  | busy | refused | closed => false

def searching : Stage → Bool
  | free continuing => continuing
  | converting _ => true
  | entered _ | busy | holding _ _ | failing _ _ | refused | closed => false

def next : Stage → (c : ThreadCall) → c.Answer → Stage
  | entered continuing, .getActiveRun, none => free continuing
  | entered continuing, .getActiveRun, some _ => if continuing then closed else busy
  | entered true, .getThread, false => closed
  | busy, .appendMessage _ _, _ => closed
  | free _, .appendMessage _ _, message => holding message false
  | free _, .listPendingSteering, steering => converting steering
  | converting (_ :: rest), .updateMessage _ _, _ => converting rest
  | converting _, .claimNextQueuedMessage, none => closed
  | converting _, .claimNextQueuedMessage, some message => holding message true
  | holding message true, .resolveSelection, false => failing message true
  | holding _ _, .createQueuedThreadRunIfAbsent _, some (_, true) => closed
  | holding _ _, .createQueuedThreadRunIfAbsent _, some (_, false) => refused
  | holding message continuing, .createQueuedThreadRunIfAbsent _, none =>
    failing message continuing
  | failing _ _, .updateMessage _ _, _ => closed
  | failing _ _, .deleteMessage _, _ => closed
  | refused, .updateMessage _ _, _ => closed
  | refused, .updateKind _ _ _, _ => closed
  | stage, _, _ => stage

end Stage

inductive Legal : Stage → ThreadCall → Prop where
  | getThread (continuing : Bool) : Legal (.entered continuing) .getThread
  | selection : Legal (.entered false) .resolveSelection
  | getActiveRun (continuing : Bool) : Legal (.entered continuing) .getActiveRun
  | steeringAvailable : Legal .busy .steeringAvailable
  | join (manual : Bool) (dispatchStatus : ChatMessageDispatchStatus)
    (joins : dispatchStatus = .queued ∨ dispatchStatus = .steering ∨
      dispatchStatus = .ready ∧ manual = true) :
    Legal .busy (.appendMessage manual dispatchStatus)
  | begin : Legal (.free false) (.appendMessage false .inflight)
  | listSteering : Legal (.free true) .listPendingSteering
  | requeue (message : Nat) (rest : List Nat) :
    Legal (.converting (message :: rest)) (.updateMessage message .queued)
  | claim : Legal (.converting []) .claimNextQueuedMessage
  | reselect (message : Nat) : Legal (.holding message true) .resolveSelection
  | create (message : Nat) (continuing : Bool) :
    Legal (.holding message continuing) (.createQueuedThreadRunIfAbsent message)
  | giveBack (message : Nat) : Legal (.failing message true) (.updateMessage message .queued)
  | withdraw (message : Nat) : Legal (.failing message false) (.deleteMessage message)
  | yield (message : Nat) : Legal .refused (.updateMessage message .queued)
  | rejoin (message : Nat) (dispatchStatus : ChatMessageDispatchStatus) (manual : Bool) :
    Legal .refused (.updateKind message dispatchStatus manual)

def dispatching : Protocol ThreadCall ThreadCall.Answer Stage where
  legal := Legal
  answers stage c a stage' := stage' = stage.next c a

abbrev Conducts (task : ThreadTask (Option MessageDispatch)) (stage : Stage) : Prop :=
  task.wp dispatching (fun _ stage => stage.hopeful = false) (fun stage => stage.hopeful = false)
    stage

section Programs

theorem conducts_giveBack (message : Nat) : Conducts (giveBack message) (.failing message true) := by
  refine ⟨.giveBack message, ?_⟩
  rintro ⟨⟩ _ rfl
  exact rfl

theorem conducts_dispatchClaimed (message : Nat) :
    Conducts (dispatchClaimed message) (.holding message true) := by
  refine ⟨.reselect message, ?_⟩
  rintro (_ | _) _ rfl
  · exact conducts_giveBack message
  · refine ⟨.create message true, ?_⟩
    rintro (_ | ⟨run, _ | _⟩) _ rfl
    · exact conducts_giveBack message
    · refine ⟨.yield message, ?_⟩
      rintro ⟨⟩ _ rfl
      exact rfl
    · exact rfl

theorem wp_requeueSteering (steering : List Nat) :
    (requeueSteering steering).wp dispatching (fun _ stage => stage = .converting [])
      (fun stage => stage.hopeful = false) (.converting steering) := by
  induction steering with
  | nil => exact rfl
  | cons message rest ih =>
    refine ⟨.requeue message rest, ?_⟩
    rintro ⟨⟩ _ rfl
    exact ih

theorem conducts_continueThread : Conducts continueThread (.entered true) := by
  refine ⟨.getThread true, ?_⟩
  rintro (_ | _) _ rfl
  · exact rfl
  · refine ⟨.getActiveRun true, ?_⟩
    rintro (_ | run) _ rfl
    · refine ⟨.listSteering, ?_⟩
      rintro steering _ rfl
      refine Program.wp_bind (p := requeueSteering steering)
        (Program.wp_mono (wp_requeueSteering steering) ?_)
      rintro ⟨⟩ _ rfl
      refine ⟨.claim, ?_⟩
      rintro (_ | message) _ rfl
      · exact rfl
      · exact conducts_dispatchClaimed message
    · exact rfl

theorem joins_appendedStatus (deliveryMode : DeliveryMode) (available : Bool) (run : ThreadRun) :
    appendedStatus deliveryMode available run = .queued ∨
      appendedStatus deliveryMode available run = .steering ∨
      appendedStatus deliveryMode available run = .ready ∧
        decide (deliveryMode = .manual) = true := by
  unfold appendedStatus
  split
  · next manual => exact Or.inr (Or.inr ⟨rfl, decide_eq_true manual⟩)
  · split <;> simp

theorem conducts_appendToActiveRun (deliveryMode : DeliveryMode) (run : ThreadRun) :
    Conducts (appendToActiveRun deliveryMode run) .busy := by
  refine ⟨.steeringAvailable, ?_⟩
  rintro available _ rfl
  refine ⟨.join _ _ (joins_appendedStatus deliveryMode available run), ?_⟩
  rintro message _ rfl
  exact rfl

theorem conducts_startRun (deliveryMode : DeliveryMode) :
    Conducts (startRun deliveryMode) (.free false) := by
  refine ⟨.begin, ?_⟩
  rintro message _ rfl
  refine ⟨.create message false, ?_⟩
  rintro (_ | ⟨run, _ | _⟩) _ rfl
  · refine ⟨.withdraw message, ?_⟩
    rintro ⟨⟩ _ rfl
    exact rfl
  · refine ⟨.rejoin message _ _, ?_⟩
    rintro ⟨⟩ _ rfl
    exact rfl
  · exact rfl

theorem conducts_postMessage (deliveryMode : DeliveryMode) :
    Conducts (postMessage deliveryMode) (.entered false) := by
  refine ⟨.getThread false, ?_⟩
  rintro (_ | _) _ rfl
  · exact rfl
  · refine ⟨.selection, ?_⟩
    rintro (_ | _) _ rfl
    · exact rfl
    · refine ⟨.getActiveRun false, ?_⟩
      rintro (_ | run) _ rfl
      · exact conducts_startRun deliveryMode
      · exact conducts_appendToActiveRun deliveryMode run

end Programs

structure OpenCall where
  stage : Stage
  rest : ThreadTask (Option MessageDispatch)

structure ThreadSystem where
  store : ThreadStore
  calls : Nat → Option OpenCall
  /-- The continuations that completed runs still have to get. -/
  due : Nat

inductive ThreadLabel where
  | postMessage (process : Nat) (deliveryMode : DeliveryMode)
  | continueThread (process : Nat) (owed : Bool)
  /-- The next access to the store, or the return. -/
  | access (process : Nat) (propose : (c : ThreadCall) → c.Answer)
  | runStatus (runId : Nat) (status : RunStatus)
  | steeringApplied (message : Nat)

namespace ThreadSystem

def start : ThreadSystem := ⟨{}, fun _ => none, 0⟩

def setCall (s : ThreadSystem) (process : Nat) (opened : Option OpenCall) : ThreadSystem :=
  { s with calls := Function.update s.calls process opened }

def access (s : ThreadSystem) (process : Nat) (propose : (c : ThreadCall) → c.Answer) :
    Option ThreadSystem :=
  match s.calls process with
  | none => none
  | some ⟨stage, .call c next⟩ =>
    let (a, store) := s.store.respond c (propose c)
    some { s.setCall process (some ⟨stage.next c a, next a⟩) with store := store }
  | some ⟨_, .pure _⟩ | some ⟨_, .raise⟩ => some (s.setCall process none)

def step (s : ThreadSystem) : ThreadLabel → Option ThreadSystem
  | .postMessage process deliveryMode =>
    match s.calls process with
    | none => some (s.setCall process (some ⟨.entered false, postMessage deliveryMode⟩))
    | some _ => none
  | .continueThread process owed =>
    match s.calls process with
    | none =>
      if owed = true ∧ s.due = 0 then none
      else
        some { s.setCall process (some ⟨.entered true, continueThread⟩) with
          due := if owed then s.due - 1 else s.due }
    | some _ => none
  | .access process propose => s.access process propose
  | .runStatus runId status =>
    match s.store.runs.find? fun run => run.id = runId with
    | some run =>
      if run.status.terminal then none
      else
        some { s with
          store := s.store.setRunStatus runId status
          due := if status.terminal then s.due + 1 else s.due }
    | none => none
  | .steeringApplied message =>
    if message ∈ s.store.pendingSteering then
      some { s with store := s.store.setDispatch message .completed }
    else none

structure Quiet (s : ThreadSystem) : Prop where
  ended : s.store.activeRun = none
  returned : ∀ process, s.calls process = none
  continued : s.due = 0

structure Awake (s : ThreadSystem) : Prop where
  served : s.Quiet → ∀ message ∈ s.store.messages, message.dispatchable = false
  ordered : (s.store.runs.map ThreadRun.triggerMessage).Pairwise (· < ·)

/-- Apart from the process and the active run, something will look at the thread again. -/
def Expects (s : ThreadSystem) (process : Nat) : Prop :=
  0 < s.due ∨ ∃ q, q ≠ process ∧ ∃ opened, s.calls q = some opened ∧ opened.stage.hopeful = true

def Ahead (s : ThreadSystem) (process : Nat) : Prop :=
  s.store.activeRun ≠ none ∨ s.Expects process

def Alone (s : ThreadSystem) (process : Nat) (kind : Stage → Bool) : Prop :=
  ∀ q, q ≠ process → ∀ opened, s.calls q = some opened → kind opened.stage = false

def Allows (s : ThreadSystem) (process : Nat) : Stage → ThreadCall → Prop
  | _, .getActiveRun => s.store.activeRun = none → s.Alone process Stage.window
  | _, .appendMessage _ .queued => s.Ahead process
  | _, .appendMessage _ .steering => s.Alone process Stage.searching
  | _, .appendMessage _ .inflight => ∀ message ∈ s.store.messages, message.open? = false
  | .failing _ _, .updateMessage _ _ => s.Ahead process
  | .failing _ _, .deleteMessage _ =>
    s.Ahead process ∨ ∀ message ∈ s.store.messages, message.dispatchable = false
  | _, _ => True

def Attentive (s : ThreadSystem) : ThreadLabel → Prop
  | .access process _ =>
    ∀ stage c next, s.calls process = some ⟨stage, .call c next⟩ → s.Allows process stage c
  | _ => True

def Placed (store : ThreadStore) : Stage → Prop
  | .converting steering =>
    (∀ message ∈ store.messages, message.dispatchStatus = .steering →
      message.sequence ∈ steering) ∧ ∀ sequence ∈ steering, store.Above sequence
  | .holding message _ | .failing message _ => store.Held message
  | .refused => False
  | .entered _ | .busy | .free _ | .closed => True

structure Good (s : ThreadSystem) : Prop where
  live : s.store.active = true
  orderly : s.store.Orderly
  conducted : ∀ p opened, s.calls p = some opened → Conducts opened.rest opened.stage
  placed : ∀ p opened, s.calls p = some opened → Placed s.store opened.stage
  vacant : ∀ p opened, s.calls p = some opened → opened.stage.window = true →
    s.store.activeRun = none ∧ s.Alone p Stage.window
  awake : ∀ message ∈ s.store.messages, message.dispatchable = true →
    s.store.activeRun ≠ none ∨ 0 < s.due ∨
      ∃ q opened, s.calls q = some opened ∧ opened.stage.hopeful = true

theorem good_start : Good start where
  live := rfl
  orderly := ⟨.nil, .nil, by simp [start], by simp [start]⟩
  conducted := by simp [start]
  placed := by simp [start]
  vacant := by simp [start]
  awake := by simp [start]

theorem setCall_calls (s : ThreadSystem) (p q : Nat) (opened : Option OpenCall) :
    (s.setCall p opened).calls q = if q = p then opened else s.calls q :=
  Function.update_apply ..

structure Advance (s : ThreadSystem) (p : Nat) (stage : Stage) (store : ThreadStore) : Prop where
  live : store.active = true
  orderly : store.Orderly
  placed : Placed store stage
  others : ∀ q, q ≠ p → ∀ opened, s.calls q = some opened → Placed store opened.stage
  window : stage.window = true → store.activeRun = none ∧ s.Alone p Stage.window
  elsewhere : ∀ q, q ≠ p → ∀ opened, s.calls q = some opened → opened.stage.window = true →
    store.activeRun = none ∧ stage.window = false
  awake : ∀ message ∈ store.messages, message.dispatchable = true →
    stage.hopeful = true ∨ store.activeRun ≠ none ∨ s.Expects p

section Access

variable {s : ThreadSystem} {p : Nat} {stage : Stage} {store : ThreadStore}
  {rest : ThreadTask (Option MessageDispatch)}

theorem Good.advance (good : Good s) (advance : Advance s p stage store)
    (conducts : Conducts rest stage) :
    Good { s.setCall p (some ⟨stage, rest⟩) with store := store } where
  live := advance.live
  orderly := advance.orderly
  conducted := by
    intro q opened held
    rw [setCall_calls] at held
    split at held
    · obtain rfl := Option.some.inj held
      exact conducts
    · exact good.conducted q opened held
  placed := by
    intro q opened held
    rw [setCall_calls] at held
    split at held
    · obtain rfl := Option.some.inj held
      exact advance.placed
    · next other => exact advance.others q other opened held
  vacant := by
    intro q opened held window
    rw [setCall_calls] at held
    split at held
    · next same =>
      subst same
      obtain rfl := Option.some.inj held
      obtain ⟨ended, alone⟩ := advance.window window
      refine ⟨ended, fun r other opened held => ?_⟩
      rw [setCall_calls, if_neg other] at held
      exact alone r other opened held
    · next other =>
      obtain ⟨ended, outside⟩ := advance.elsewhere q other opened held window
      refine ⟨ended, fun r apart opened' held' => ?_⟩
      rw [setCall_calls] at held'
      split at held'
      · obtain rfl := Option.some.inj held'
        exact outside
      · exact (good.vacant q opened held window).2 r apart opened' held'
  awake := by
    intro message member dispatchable
    rcases advance.awake message member dispatchable with here | active | due | ⟨q, other, opened, held, hopeful⟩
    · exact Or.inr (Or.inr ⟨p, ⟨stage, rest⟩, by rw [setCall_calls, if_pos rfl], here⟩)
    · exact Or.inl active
    · exact Or.inr (Or.inl due)
    · exact Or.inr (Or.inr ⟨q, opened, by rw [setCall_calls, if_neg other]; exact held, hopeful⟩)

theorem Good.expects (good : Good s) (here : s.calls p = some ⟨stage, rest⟩)
    {message : ChatMessage} (member : message ∈ s.store.messages)
    (dispatchable : message.dispatchable = true) :
    stage.hopeful = true ∨ s.Ahead p := by
  rcases good.awake message member dispatchable with active | due | ⟨q, opened, held, hopeful⟩
  · exact Or.inr (Or.inl active)
  · exact Or.inr (Or.inr (Or.inl due))
  · by_cases same : q = p
    · rw [same, here] at held
      obtain rfl := Option.some.inj held
      exact Or.inl hopeful
    · exact Or.inr (Or.inr (Or.inr ⟨q, same, opened, held, hopeful⟩))

theorem Good.elsewhere (good : Good s) (here : s.calls p = some ⟨stage, rest⟩) :
    ∀ q, q ≠ p → ∀ opened, s.calls q = some opened → opened.stage.window = true →
      s.store.activeRun = none ∧ stage.window = false := by
  intro q other opened held window
  obtain ⟨ended, alone⟩ := good.vacant q opened held window
  exact ⟨ended, alone p other.symm _ here⟩

theorem Good.others_of_window (good : Good s) (here : s.calls p = some ⟨stage, rest⟩)
    (window : stage.window = true) (store : ThreadStore) :
    ∀ q, q ≠ p → ∀ opened, s.calls q = some opened → Placed store opened.stage := by
  intro q other opened held
  have outside := (good.vacant p _ here window).2 q other opened held
  have placed := good.placed q opened held
  cases at_ : opened.stage <;> simp_all [Placed, Stage.window]

theorem Good.elsewhere_of_window (good : Good s) (here : s.calls p = some ⟨stage, rest⟩)
    (window : stage.window = true) {store : ThreadStore} {stage' : Stage} :
    ∀ q, q ≠ p → ∀ opened, s.calls q = some opened → opened.stage.window = true →
      store.activeRun = none ∧ stage'.window = false := by
  intro q other opened held inside
  have outside := (good.vacant p _ here window).2 q other opened held
  rw [outside] at inside
  cases inside

theorem Good.still (good : Good s) (here : s.calls p = some ⟨stage, rest⟩) :
    Advance s p stage s.store where
  live := good.live
  orderly := good.orderly
  placed := good.placed p _ here
  others q _ opened held := good.placed q opened held
  window := good.vacant p _ here
  elsewhere := good.elsewhere here
  awake _ member dispatchable := good.expects here member dispatchable

theorem Good.within (good : Good s) (here : s.calls p = some ⟨stage, rest⟩)
    (window : stage.window = true) {stage' : Stage} (hopeful : stage'.hopeful = true)
    (live : store.active = true) (orderly : store.Orderly) (placed : Placed store stage')
    (runs : store.runs = s.store.runs) : Advance s p stage' store where
  live := live
  orderly := orderly
  placed := placed
  others := good.others_of_window here window store
  window := by
    intro _
    have same : store.activeRun = s.store.activeRun := by rw [ThreadStore.activeRun, runs]; rfl
    rw [same]
    exact good.vacant p _ here window
  elsewhere := good.elsewhere_of_window here window
  awake _ _ _ := Or.inl hopeful

theorem Good.leaves (good : Good s) (here : s.calls p = some ⟨stage, rest⟩)
    (window : stage.window = true) (live : store.active = true) (orderly : store.Orderly)
    (ahead : ∀ message ∈ store.messages, message.dispatchable = true →
      store.activeRun ≠ none ∨ s.Expects p) : Advance s p .closed store where
  live := live
  orderly := orderly
  placed := trivial
  others := good.others_of_window here window store
  window := by simp [Stage.window]
  elsewhere := good.elsewhere_of_window here window
  awake message member dispatchable := Or.inr (ahead message member dispatchable)

end Access

end ThreadSystem

end Taroai.Chat
