import Mathlib
import Taroai.Lib.Numbered
import Taroai.Store.ActionFence

/-! The numbers that the store gives: to the events of a run and of a thread and to the checkpoints
of a run. Events are appended by the operations on actions and by `append_run_event`, in any order,
while a reader polls the events of a run or of a thread. -/

namespace Taroai.Store

open AgentStore Raising

variable {J : Type}

/-- What a reader polls. -/
inductive Stream where
  | run (tenantId runId : String)
  | thread (tenantId threadId : String)

namespace Stream

def holds : Stream → RunEvent J → Bool
  | run _ runId, event => event.runId = runId
  | thread tenantId threadId, event => event.tenantId = tenantId ∧ event.threadId = some threadId

def number : Stream → RunEvent J → Nat
  | run _ _, event => event.sequence
  | thread _ _, event => event.threadSequence.getD 0

def events (stream : Stream) (s : AgentStore J) : List (RunEvent J) :=
  s.runEvents.filter stream.holds

end Stream

namespace AgentStore

def listRunEvents (tenantId runId : String) (afterSequence : Option Int) :
    Op J (List (RunEvent J)) := do
  let _ ← getRun tenantId runId
  read fun s => ((Stream.run tenantId runId).events s).filter fun event =>
    isAfter afterSequence event.sequence

/-- The tenant of each chat thread is an argument. -/
def listThreadEvents (threadTenants : String → Option String) (tenantId threadId : String)
    (afterSequence : Option Int) : Op J (List (RunEvent J)) :=
  match threadTenants threadId with
  | none => raise (.notFound s!"Chat thread not found: {threadId}")
  | some owner => do
    ensure (owner = tenantId)
      (.tenantAccess s!"Chat thread {threadId} is not in tenant {tenantId}")
    let matched ← read fun s => ((Stream.thread tenantId threadId).events s).filter fun event =>
      event.threadSequence.isSome && isAfter afterSequence (event.threadSequence.getD 0)
    return Ranked.orderBy (fun event => toLex (event.threadSequence.getD 0, event.id)) matched

def checkCheckpointCycle (checkpoint : AgentCheckpoint J) : Op J Unit :=
  match checkpoint.cycleId with
  | none => pure ()
  | some cycleId => do
    let checkpointId := checkpoint.id
    let cycle ← getAgentCycle checkpoint.tenantId cycleId
    ensure (cycle.runId = checkpoint.runId)
      (.value s!"Agent checkpoint {checkpointId} cycle does not match its run")

def checkCheckpointAction (checkpoint : AgentCheckpoint J) : Op J Unit :=
  match checkpoint.lastCommittedActionId with
  | none => pure ()
  | some actionId => do
    let checkpointId := checkpoint.id
    let action ← getAgentAction checkpoint.tenantId actionId
    ensure (action.runId = checkpoint.runId)
      (.value s!"Agent checkpoint {checkpointId} action does not match its run")

def createAgentCheckpoint (jsonable : J → Bool) (checkpoint : AgentCheckpoint J) :
    Op J (AgentCheckpoint J) := do
  ensure (jsonable checkpoint.statePayload = true) .notSerialisable
  let checkpointId := checkpoint.id
  let runId := checkpoint.runId
  let workspaceId := checkpoint.workspaceId
  let run ← getRun checkpoint.tenantId runId
  ensure (run.workspaceId = workspaceId)
    (.tenantAccess s!"Run {runId} is not in workspace {workspaceId}")
  ensure (run.threadId = checkpoint.threadId)
    (.value s!"Agent checkpoint {checkpointId} thread does not match run {runId}")
  checkCheckpointCycle checkpoint
  checkCheckpointAction checkpoint
  let expectedSequence ← read fun s => s.nextCheckpointSequence runId
  let sequence := checkpoint.sequence
  let expected := s!"({expectedSequence}), got {sequence}"
  ensure (sequence = expectedSequence)
    (.value s!"Agent checkpoint sequence must be the next checkpoint sequence {expected}")
  update fun s => { s with checkpoints := s.checkpoints ++ [checkpoint] }
  return checkpoint

end AgentStore

def Stream.list (threadTenants : String → Option String) :
    Stream → Option Int → Op J (List (RunEvent J))
  | .run tenantId runId => listRunEvents tenantId runId
  | .thread tenantId threadId => listThreadEvents threadTenants tenantId threadId

def checkpointsOf (runId : String) (s : AgentStore J) : List (AgentCheckpoint J) :=
  s.checkpoints.filter fun checkpoint => checkpoint.runId = runId

/-- Every sequence counts from one without a gap, in the order in which its entries came. -/
structure Sequenced (s : AgentStore J) : Prop where
  events : ∀ stream : Stream, Numbered stream.number (stream.events s)
  threaded : ∀ event ∈ s.runEvents, event.threadSequence.isSome = event.threadId.isSome
  checkpoints : ∀ runId, Numbered AgentCheckpoint.sequence (checkpointsOf runId s)

/-- What every operation does to the numbered records. -/
structure Extends (s t : AgentStore J) : Prop where
  sequenced : Sequenced s → Sequenced t
  events : s.runEvents <+: t.runEvents

section Extension

theorem Extends.refl (s : AgentStore J) : Extends s s := ⟨id, List.prefix_rfl⟩

theorem Extends.trans (s t u : AgentStore J) (first : Extends s t) (later : Extends t u) :
    Extends s u :=
  ⟨later.sequenced ∘ first.sequenced, first.events.trans later.events⟩

theorem Extends.of_same {s t : AgentStore J} (events : t.runEvents = s.runEvents)
    (checkpoints : t.checkpoints = s.checkpoints) : Extends s t where
  sequenced sequenced := by
    constructor
    · intro stream
      rw [Stream.events, events]
      exact sequenced.events stream
    · rw [events]
      exact sequenced.threaded
    · intro runId
      rw [checkpointsOf, checkpoints]
      exact sequenced.checkpoints runId
  events := events ▸ List.prefix_rfl

theorem Extends.checkpoint {s : AgentStore J} {actions : Table (AgentAction.id (J := J))}
    {checkpoint : AgentCheckpoint J}
    (next : checkpoint.sequence = s.nextCheckpointSequence checkpoint.runId) :
    Extends s { s with actions, checkpoints := s.checkpoints ++ [checkpoint] } where
  sequenced sequenced := by
    refine ⟨sequenced.events, sequenced.threaded, fun runId => ?_⟩
    refine (sequenced.checkpoints runId).filter_concat fun same => ?_
    obtain rfl := of_decide_eq_true same
    rw [next, nextCheckpointSequence]
    exact congrArg (· + 1) (sequenced.checkpoints checkpoint.runId).max_eq
  events := List.prefix_rfl

theorem appendRunEvent_extends (run : Run) (eventId eventType : String) (payload : Dict J) :
    (appendRunEvent run eventId eventType payload).Respects Extends := by
  intro s
  refine ⟨fun sequenced => ⟨fun stream => ?_, ?_, sequenced.checkpoints⟩, List.prefix_append ..⟩
  · refine (sequenced.events stream).filter_concat fun same => ?_
    cases stream with
    | run _ runId =>
      obtain rfl : run.id = runId := of_decide_eq_true same
      rfl
    | thread tenantId threadId =>
      obtain ⟨rfl, own⟩ : run.tenantId = tenantId ∧ run.threadId = some threadId :=
        of_decide_eq_true same
      have largest := (sequenced.events (.thread run.tenantId threadId)).max_eq
      simp only [Stream.number, own, Option.map_some, Option.getD_some]
      exact congrArg (· + 1) largest
  · intro event among
    obtain before | rfl := List.mem_append.mp among |>.imp_right List.mem_singleton.mp
    · exact sequenced.threaded event before
    · exact Option.isSome_map

theorem readOnly_extends {α : Type} {m : Op J α} (reads : m.ReadOnly) : m.Respects Extends :=
  reads.respects Extends.refl

theorem extends_bind {α β : Type} {m : Op J α} {f : α → Op J β} (first : m.Respects Extends)
    (next : ∀ a, (f a).Respects Extends) : (m >>= f).Respects Extends :=
  first.bind Extends.trans next

theorem extends_after {α β : Type} {m : Op J α} {f : α → Op J β} (reads : m.ReadOnly)
    (next : ∀ a, (f a).Respects Extends) : (m >>= f).Respects Extends :=
  extends_bind (readOnly_extends reads) next

theorem putAction_extends (action : AgentAction J) : (putAction action).Respects Extends :=
  fun _ => .of_same rfl rfl

theorem put_return_extends {α : Type} (action : AgentAction J) (result : α) :
    (putAction action >>= fun _ => pure result : Op J α).Respects Extends :=
  extends_bind (putAction_extends action) fun _ => readOnly_extends (readOnly_pure _)

theorem put_if_extends {α : Type} (p : Prop) [Decidable p] (action : AgentAction J)
    (result other : α) : (if p then (putAction action >>= fun _ => pure result) else pure other :
      Op J α).Respects Extends := by
  split
  · exact put_return_extends action result
  · exact readOnly_extends (readOnly_pure _)

theorem put_event_extends {α : Type} (action : AgentAction J)
    (tenantId runId eventId eventType : String) (payload : Dict J) (result : α) :
    (putAction action >>= fun _ => getRun tenantId runId >>= fun run =>
      appendRunEvent run eventId eventType payload >>= fun _ => pure result : Op J α).Respects
        Extends := by
  refine extends_bind (putAction_extends action) fun _ => ?_
  refine extends_after (getRun_readOnly _ _) fun run => ?_
  exact extends_bind (appendRunEvent_extends run _ _ _) fun _ => readOnly_extends (readOnly_pure _)

theorem createAgentAction_extends (action : AgentAction J) :
    (createAgentAction action).Respects Extends := by
  refine extends_after (readOnly_ensure _ _) fun _ => ?_
  refine extends_after (getAgentCycle_readOnly _ _) fun _ => ?_
  refine extends_after (readOnly_ensure _ _) fun _ => ?_
  refine extends_after (readOnly_ensure _ _) fun _ => ?_
  refine extends_after (readOnly_read _) fun _ => ?_
  refine extends_after (readOnly_ensure _ _) fun _ => ?_
  refine extends_after (readOnly_read _) fun _ => ?_
  exact extends_after (readOnly_ensure _ _) fun _ => put_return_extends _ _

theorem claimAgentAction_extends (tenantId actionId owner : String) (leaseSeconds : Int)
    (now : DateTime) :
    (claimAgentAction tenantId actionId owner leaseSeconds now : Op J _).Respects Extends := by
  refine extends_after (leaseTime_readOnly _) fun _ => ?_
  refine extends_after (leaseExpiration_readOnly _ _) fun _ => ?_
  refine extends_after (readOnly_ensure _ _) fun _ => ?_
  refine extends_after (readOnly_read _) fun found => ?_
  cases found with
  | none => exact readOnly_extends (readOnly_pure _)
  | some action => exact put_if_extends _ _ _ _

theorem renewAgentActionLease_extends (tenantId actionId owner : String) (generation : Nat)
    (leaseSeconds : Int) (now : DateTime) :
    (renewAgentActionLease tenantId actionId owner generation leaseSeconds now : Op J _).Respects
      Extends := by
  refine extends_after (leaseTime_readOnly _) fun _ => ?_
  refine extends_after (leaseExpiration_readOnly _ _) fun _ => ?_
  refine extends_after (readOnly_read _) fun found => ?_
  cases found with
  | none => exact readOnly_extends (readOnly_pure _)
  | some action => exact put_if_extends _ _ _ _

theorem cancelAgentAction_extends (tenantId actionId : String) (now : DateTime) :
    (cancelAgentAction tenantId actionId now : Op J _).Respects Extends := by
  refine extends_after (getAgentAction_readOnly _ _) fun action => ?_
  split_ifs
  · exact extends_after (leaseTime_readOnly _) fun _ => put_return_extends _ _
  · exact readOnly_extends (readOnly_pure _)

theorem recoverExpiredAgentActions_extends (tenantId : String) (now : DateTime) (limit : Int) :
    (recoverExpiredAgentActions tenantId now limit : Op J _).Respects Extends := by
  refine extends_after (readOnly_ensure _ _) fun _ => ?_
  refine extends_after (leaseTime_readOnly _) fun _ => ?_
  refine extends_after (readOnly_read _) fun _ => ?_
  refine extends_bind ?_ fun _ => readOnly_extends (readOnly_pure _)
  exact Respects.each Extends.refl Extends.trans _ fun _ _ => putAction_extends _

theorem resolveUncertainAgentAction_extends
    (tenantId actionId decision user note eventId : String) (now : Time) :
    (resolveUncertainAgentAction tenantId actionId decision user note now eventId :
      Op J _).Respects Extends := by
  refine extends_after (readOnly_ensure _ _) fun _ => ?_
  refine extends_after (getAgentAction_readOnly _ _) fun _ => ?_
  refine extends_after (readOnly_ensure _ _) fun _ => ?_
  exact extends_after (resolution_readOnly _ _ _ _ _) fun _ => put_event_extends _ _ _ _ _ _ _

theorem pauseConnectorActionForReconnect_extends
    (tenantId actionId connectorId eventId : String) :
    (pauseConnectorActionForReconnect tenantId actionId connectorId eventId : Op J _).Respects
      Extends := by
  refine extends_after (getAgentAction_readOnly _ _) fun _ => ?_
  refine extends_after (reconnectRetryCount_readOnly _) fun _ => ?_
  exact extends_after (readOnly_ensure _ _) fun _ => put_event_extends _ _ _ _ _ _ _

theorem retryConnectorActionAfterReconnect_extends
    (tenantId actionId connectorId user eventId : String) :
    (retryConnectorActionAfterReconnect tenantId actionId connectorId user eventId :
      Op J _).Respects Extends := by
  refine extends_after (getAgentAction_readOnly _ _) fun _ => ?_
  refine extends_after (reconnectRetryCount_readOnly _) fun _ => ?_
  exact extends_after (readOnly_ensure _ _) fun _ => put_event_extends _ _ _ _ _ _ _

theorem commit_effect (jsonable : J → Bool) (tenantId actionId : String) (request : CommitRequest J)
    (s : AgentStore J) :
    ((∃ e, (commitAgentActionObservation jsonable tenantId actionId request s).1 = .error e) ∧
      (commitAgentActionObservation jsonable tenantId actionId request s).2 = s) ∨
    ∃ action checkpoint committedAt, s.actions.get? actionId = some action ∧
      checkpoint.runId = action.runId ∧ checkpoint.lastCommittedActionId = some action.id ∧
      checkpoint.sequence = s.nextCheckpointSequence checkpoint.runId ∧
      commitAgentActionObservation jsonable tenantId actionId request s =
        (.ok (action.committed request.observation request.usage committedAt),
          { s with
            actions := s.actions.put
              (action.committed request.observation request.usage committedAt)
            checkpoints := s.checkpoints ++ [checkpoint] }) := by
  rcases ran : commitAgentActionObservation jsonable tenantId actionId request s with ⟨result, t⟩
  unfold commitAgentActionObservation at ran
  rcases (readOnly_ensure _ _).bind_cases ran with ⟨rfl, failed⟩ | ⟨_, -, ran⟩
  · exact .inl ⟨failed, rfl⟩
  rcases (getAgentAction_readOnly _ _).bind_cases ran with ⟨rfl, failed⟩ | ⟨action, got, ran⟩
  · exact .inl ⟨failed, rfl⟩
  rcases (readOnly_ensure _ _).bind_cases ran with ⟨rfl, failed⟩ | ⟨_, -, ran⟩
  · exact .inl ⟨failed, rfl⟩
  rcases (leaseTime_readOnly _).bind_cases ran with ⟨rfl, failed⟩ | ⟨committedAt, -, ran⟩
  · exact .inl ⟨failed, rfl⟩
  rcases (readOnly_ensure _ _).bind_cases ran with ⟨rfl, failed⟩ | ⟨_, -, ran⟩
  · exact .inl ⟨failed, rfl⟩
  by_cases nonempty : request.checksum ≠ ""
  · rw [dif_pos nonempty, update_bind] at ran
    cases ran
    exact .inr ⟨action, s.commitCheckpoint action request committedAt nonempty, committedAt,
      (getAgentAction_ok got).1, rfl, rfl, rfl, rfl⟩
  · rw [dif_neg nonempty] at ran
    cases ran
    exact .inl ⟨⟨_, rfl⟩, rfl⟩

theorem commit_extends (jsonable : J → Bool) (tenantId actionId : String)
    (request : CommitRequest J) :
    (commitAgentActionObservation jsonable tenantId actionId request).Respects Extends := by
  intro s
  obtain ⟨-, same⟩ | ⟨_, _, _, -, -, -, next, ran⟩ :=
    commit_effect jsonable tenantId actionId request s
  · rw [same]
    exact .refl s
  · rw [ran]
    exact .checkpoint next

theorem exec_extends (jsonable : J → Bool) (call : Call J) :
    (Ledger.exec jsonable call).Respects Extends := by
  have mapped {α : Type} {m : Op J α} (f : α → Option (AgentAction J))
      (first : m.Respects Extends) : (m >>= fun a => pure (f a)).Respects Extends :=
    extends_bind first fun _ => readOnly_extends (readOnly_pure _)
  cases call with
  | create => exact mapped _ (createAgentAction_extends _)
  | claim => exact claimAgentAction_extends _ _ _ _ _
  | renew => exact renewAgentActionLease_extends _ _ _ _ _ _
  | cancel => exact mapped _ (cancelAgentAction_extends _ _ _)
  | recover => exact mapped _ (recoverExpiredAgentActions_extends _ _ _)
  | commit => exact mapped _ (commit_extends _ _ _ _)
  | resolve => exact mapped _ (resolveUncertainAgentAction_extends _ _ _ _ _ _ _)
  | pause => exact mapped _ (pauseConnectorActionForReconnect_extends _ _ _ _)
  | retry => exact mapped _ (retryConnectorActionAfterReconnect_extends _ _ _ _ _)

theorem createAgentCheckpoint_extends (jsonable : J → Bool) (checkpoint : AgentCheckpoint J) :
    (createAgentCheckpoint jsonable checkpoint).Respects Extends := by
  have cycle : (checkCheckpointCycle checkpoint).ReadOnly := by
    unfold checkCheckpointCycle
    split
    · exact readOnly_pure _
    · exact (getAgentCycle_readOnly _ _).bind fun _ => readOnly_ensure _ _
  have action : (checkCheckpointAction checkpoint).ReadOnly := by
    unfold checkCheckpointAction
    split
    · exact readOnly_pure _
    · exact (getAgentAction_readOnly _ _).bind fun _ => readOnly_ensure _ _
  refine extends_after (readOnly_ensure _ _) fun _ => ?_
  refine extends_after (getRun_readOnly _ _) fun _ => ?_
  refine extends_after (readOnly_ensure _ _) fun _ => ?_
  refine extends_after (readOnly_ensure _ _) fun _ => ?_
  refine extends_after cycle fun _ => extends_after action fun _ s => ?_
  rw [read_bind, ensure_bind]
  split
  · next expected => exact .checkpoint expected
  · exact .refl s

end Extension

/-- A step of the store, or a poll of the reader. `append_run_event` is given a run of the store. -/
inductive Move (J : Type) where
  | call (call : Call J)
  | append (tenantId runId eventId eventType : String) (payload : Dict J)
  | checkpoint (checkpoint : AgentCheckpoint J)
  | createRun (run : Run)
  | poll (threadTenants : String → Option String)

structure Followed (J : Type) where
  store : AgentStore J
  reader : Reader (RunEvent J)

namespace Followed

variable (jsonable : J → Bool) (stream : Stream)

def start (runs : Table Run.id) (cycles : Table AgentCycle.id) : Followed J :=
  ⟨⟨runs, cycles, Table.empty, [], []⟩, .fresh⟩

def step (f : Followed J) : Move J → Followed J
  | .call call => { f with store := (Ledger.exec jsonable call f.store).2 }
  | .append tenantId runId eventId eventType payload =>
    { f with
      store := ((getRun tenantId runId >>= fun run =>
        appendRunEvent run eventId eventType payload) f.store).2 }
  | .checkpoint checkpoint =>
    { f with store := (createAgentCheckpoint jsonable checkpoint f.store).2 }
  | .createRun run =>
    if (f.store.runs.get? run.id).isSome then f
    else { f with store := { f.store with runs := f.store.runs.put run } }
  | .poll threadTenants =>
    match (stream.list threadTenants f.reader.afterSequence f.store).1 with
    | .ok listed => { f with reader := f.reader.take stream.number listed }
    | .error _ => f

def run (f : Followed J) (moves : List (Move J)) : Followed J := moves.foldl (step jsonable stream) f

structure Kept (f : Followed J) : Prop where
  sequenced : Sequenced f.store
  reads : f.reader.Reads stream.number (stream.events f.store)

variable {stream}

theorem list_ok {threadTenants : String → Option String} {afterSequence : Option Int}
    {s t : AgentStore J} {listed : List (RunEvent J)} (sequenced : Sequenced s)
    (polled : stream.list threadTenants afterSequence s = (.ok listed, t)) :
    listed = (stream.events s).filter fun event => isAfter afterSequence (stream.number event) := by
  cases stream with
  | run tenantId runId =>
    obtain ⟨_, _, got, ran⟩ := bind_eq_ok.mp polled
    obtain rfl := (getRun_readOnly _ _).state got
    cases ran
    rfl
  | thread tenantId threadId =>
    simp only [Stream.list, listThreadEvents] at polled
    cases owner : threadTenants threadId with
    | none =>
      rw [owner] at polled
      cases polled
    | some owner' =>
      rw [owner] at polled
      obtain ⟨_, _, checked, ran⟩ := bind_eq_ok.mp polled
      obtain rfl := (ensure_eq_ok.mp checked).2
      cases ran
      have present : ((Stream.thread tenantId threadId).events s).filter (fun event =>
          event.threadSequence.isSome && isAfter afterSequence (event.threadSequence.getD 0)) =
          ((Stream.thread tenantId threadId).events s).filter fun event =>
            isAfter afterSequence (event.threadSequence.getD 0) := by
        refine List.filter_congr fun event among => ?_
        obtain ⟨there, own⟩ := List.mem_filter.mp among
        have owned : event.tenantId = tenantId ∧ event.threadId = some threadId :=
          of_decide_eq_true own
        rw [sequenced.threaded event there, owned.2]
        rfl
      have increasing := (sequenced.events (.thread tenantId threadId)).increasing
      refine (congrArg (Ranked.orderBy _) present).trans (orderBy_eq (increasing.filter _) ?_)
      exact fun x y below => (Prod.Lex.toLex_lt_toLex.mpr (.inl below)).le

theorem step_kept {f : Followed J} (kept : Kept stream f) (move : Move J) :
    Kept stream (f.step jsonable stream move) ∧
      Extends f.store (f.step jsonable stream move).store := by
  have written {t : AgentStore J} (extended : Extends f.store t) :
      Kept stream { f with store := t } ∧ Extends f.store t :=
    ⟨⟨extended.sequenced kept.sequenced, kept.reads.grown (extended.events.filter _)⟩, extended⟩
  cases move with
  | call call => exact written (exec_extends jsonable call f.store)
  | append tenantId runId eventId eventType payload =>
    exact written (extends_after (getRun_readOnly _ _)
      (fun run => appendRunEvent_extends run _ _ _) f.store)
  | checkpoint checkpoint => exact written (createAgentCheckpoint_extends jsonable checkpoint f.store)
  | createRun run =>
    simp only [step]
    split
    · exact ⟨kept, .refl _⟩
    · exact written (.of_same rfl rfl)
  | poll threadTenants =>
    rcases polled : stream.list threadTenants f.reader.afterSequence f.store with ⟨e | listed, t⟩
    · simp only [step, polled]
      exact ⟨kept, .refl _⟩
    · simp only [step, polled, list_ok kept.sequenced polled]
      exact ⟨⟨kept.sequenced, (kept.reads.poll (kept.sequenced.events stream)).2⟩, .refl _⟩

theorem run_kept {f : Followed J} (kept : Kept stream f) (moves : List (Move J)) :
    Kept stream (f.run jsonable stream moves) ∧
      Extends f.store (f.run jsonable stream moves).store := by
  induction moves generalizing f with
  | nil => exact ⟨kept, .refl _⟩
  | cons move moves ih =>
    obtain ⟨moved, extended⟩ := step_kept jsonable kept move
    obtain ⟨last, later⟩ := ih moved
    exact ⟨last, extended.trans _ _ _ later⟩

theorem start_kept (stream : Stream) (runs : Table Run.id) (cycles : Table AgentCycle.id) :
    Kept stream (start runs cycles : Followed J) where
  sequenced := ⟨fun _ => rfl, fun _ among => absurd among List.not_mem_nil, fun _ => rfl⟩
  reads := ⟨List.nil_prefix, rfl⟩

variable (stream) (runs : Table Run.id) (cycles : Table AgentCycle.id) (moves : List (Move J))

/-- A commit takes the next number of its run, or raises and leaves everything as it was. -/
def CommitNumbered (s : AgentStore J) : Prop := ∀ tenantId actionId request,
  let commit := commitAgentActionObservation jsonable tenantId actionId request s
  ((∃ e, commit.1 = .error e) ∧ commit.2 = s) ∨
    ∃ after checkpoint, commit.1 = .ok after ∧ commit.2.actions.get? actionId = some after ∧
      (after.status = .succeeded ∨ after.status = .failed) ∧
      commit.2.checkpoints = s.checkpoints ++ [checkpoint] ∧ checkpoint.runId = after.runId ∧
      checkpoint.sequence = (checkpointsOf after.runId s).length + 1

theorem commitNumbered {s : AgentStore J} (sequenced : Sequenced s) : CommitNumbered jsonable s := by
  intro tenantId actionId request
  dsimp only
  obtain unchanged | ⟨action, checkpoint, committedAt, stored, own, -, next, ran⟩ :=
    commit_effect jsonable tenantId actionId request s
  · exact .inl unchanged
  · rw [ran]
    refine .inr ⟨_, checkpoint, rfl, ?_, ?_, rfl, own, ?_⟩
    · rw [← Table.key_of_get? stored]
      exact Table.get?_put_self ..
    · simp only [AgentAction.committed]
      split <;> simp
    · rw [next, own, nextCheckpointSequence]
      exact congrArg (· + 1) (sequenced.checkpoints action.runId).max_eq

/-- The reader has the first events of its stream, and the next answer to a poll is the rest. -/
def Complete (f : Followed J) : Prop := f.reader.received <+: stream.events f.store ∧
  ∀ threadTenants listed t,
    stream.list threadTenants f.reader.afterSequence f.store = (.ok listed, t) →
    f.reader.received ++ listed = stream.events f.store

theorem Kept.complete {f : Followed J} (kept : Kept stream f) : Complete stream f := by
  refine ⟨kept.reads.held, fun threadTenants listed t polled => ?_⟩
  rw [list_ok kept.sequenced polled]
  exact (kept.reads.poll (kept.sequenced.events stream)).1

theorem store_numbers : Sequenced ((start runs cycles).run jsonable stream moves).store ∧
    CommitNumbered jsonable ((start runs cycles).run jsonable stream moves).store :=
  have sequenced := (run_kept jsonable (start_kept stream runs cycles) moves).1.sequenced
  ⟨sequenced, commitNumbered jsonable sequenced⟩

theorem reader_misses_nothing :
    Complete stream ((start runs cycles).run jsonable stream moves) :=
  (run_kept jsonable (start_kept stream runs cycles) moves).1.complete

end Followed

end Taroai.Store
