import Mathlib.Data.List.Basic
import Taroai.Clock
import Taroai.Domain
import Taroai.Lib.Raising

/-! The runs of the control plane store and the operations that create them and set their
status. A run is known by its place in the order of creation, as no two runs get one id. The
SQL repository makes the same checks and writes in one transaction for each operation. Events,
audit records, meters and notifications are left out. -/

namespace Taroai.Store

structure ChatThreadRow where
  tenantId : String
  workspaceId : String
deriving DecidableEq, Repr

structure ChatMessageRow where
  tenantId : String
  workspaceId : String
  threadId : String
deriving DecidableEq, Repr

structure RunCreate where
  workspaceId : String
  threadId : Option String := none
  triggerMessageId : Option String := none
deriving DecidableEq, Repr

structure RunRow where
  tenantId : String
  workspaceId : String
  userId : String
  threadId : Option String
  triggerMessageId : Option String
  status : RunStatus
  createdAt : Time
  updatedAt : Time
deriving DecidableEq, Repr

structure RunStore where
  workspaceTenants : String → Option String
  userTenants : String → Option String
  threads : String → Option ChatThreadRow
  messages : String → Option ChatMessageRow
  runs : List RunRow

inductive RunStoreError where
  | notFound
  | tenantAccess
  | value (message : String)
  | transition
deriving DecidableEq, Repr

namespace RunStore

abbrev Op := Raising RunStoreError RunStore

def lookup {α : Type} (f : RunStore → Option α) (tenantOf : α → String) (tenantId : String) : Op α := do
  let found ← Raising.read f
  match found with
  | none => Raising.raise .notFound
  | some row => do
    Raising.ensure (tenantOf row = tenantId) .tenantAccess
    return row

def getRun (tenantId : String) (runId : Nat) : Op RunRow :=
  lookup (fun s => s.runs[runId]?) RunRow.tenantId tenantId

def getChatThread (tenantId threadId : String) : Op ChatThreadRow :=
  lookup (fun s => s.threads threadId) ChatThreadRow.tenantId tenantId

def getChatMessage (tenantId messageId : String) : Op ChatMessageRow :=
  lookup (fun s => s.messages messageId) ChatMessageRow.tenantId tenantId

def validateContextOwnership (tenantId workspaceId userId : String) : Op Unit := do
  let workspaceTenant ← Raising.read fun s => s.workspaceTenants workspaceId
  Raising.ensure (workspaceTenant.all fun owner => owner = tenantId) .tenantAccess
  let userTenant ← Raising.read fun s => s.userTenants userId
  Raising.ensure (userTenant.all fun owner => owner = tenantId) .tenantAccess

def registerContext (s : RunStore) (tenantId workspaceId userId : String) : RunStore :=
  { s with
    workspaceTenants := fun id => if id = workspaceId then some tenantId else s.workspaceTenants id
    userTenants := fun id => if id = userId then some tenantId else s.userTenants id }

def validateThread (tenantId : String) (payload : RunCreate) : Op Unit :=
  match payload.threadId with
  | some threadId => do
    let thread ← getChatThread tenantId threadId
    Raising.ensure (thread.workspaceId = payload.workspaceId)
      (.value ("Run thread " ++ threadId ++ " does not match workspace " ++ payload.workspaceId))
  | none => Raising.ensure (payload.triggerMessageId = none)
    (.value "Run trigger_message_id requires thread_id")

def validateTrigger (tenantId : String) (payload : RunCreate) : Op Unit :=
  match payload.triggerMessageId with
  | none => return ()
  | some messageId => do
    let trigger ← getChatMessage tenantId messageId
    Raising.ensure (trigger.workspaceId = payload.workspaceId ∧ some trigger.threadId = payload.threadId)
      (.value "Run trigger message does not match its thread/tenant/workspace")

def addRun (s : RunStore) (run : RunRow) : RunStore := { s with runs := s.runs ++ [run] }

def putStatus (s : RunStore) (runId : Nat) (status : RunStatus) (now : Time) : RunStore :=
  { s with runs := s.runs.modify runId fun run => { run with status := status, updatedAt := now } }

def createRun (tenantId userId : String) (payload : RunCreate) (now : Time) : Op Nat := do
  validateContextOwnership tenantId payload.workspaceId userId
  validateThread tenantId payload
  validateTrigger tenantId payload
  Raising.update fun s => s.registerContext tenantId payload.workspaceId userId
  let runId ← Raising.read fun s => s.runs.length
  Raising.update fun s => s.addRun
    { tenantId := tenantId
      workspaceId := payload.workspaceId
      userId := userId
      threadId := payload.threadId
      triggerMessageId := payload.triggerMessageId
      status := .created
      createdAt := now
      updatedAt := now }
  return runId

def hasActiveThreadRun (s : RunStore) (tenantId threadId : String) : Bool :=
  s.runs.any fun run => run.tenantId = tenantId && run.threadId = some threadId && !run.status.terminal

/-- The trigger message is read after the write, for the notification. -/
def updateRunStatus (tenantId : String) (runId : Nat) (status : RunStatus) (now : Time) : Op Unit := do
  let run ← getRun tenantId runId
  Raising.update fun s => s.putStatus runId status now
  match run.triggerMessageId with
  | none => return ()
  | some messageId => do
    let _ ← getChatMessage tenantId messageId
    return ()

def createQueuedThreadRunIfAbsent (tenantId userId : String) (payload : RunCreate) (now : Time) :
    Op Unit :=
  match payload.threadId with
  | none => Raising.raise (.value "Thread run creation requires thread_id")
  | some threadId => do
    let _ ← getChatThread tenantId threadId
    let active ← Raising.read fun s => s.hasActiveThreadRun tenantId threadId
    if active then return ()
    else do
      let runId ← createRun tenantId userId payload now
      updateRunStatus tenantId runId .queued now

def cancelRun (tenantId : String) (runId : Nat) (now : Time) : Op Unit := do
  let run ← getRun tenantId runId
  Raising.ensure (run.status.terminal = false) .transition
  Raising.update fun s => s.putStatus runId .cancelled now

def requestRunRetry (tenantId : String) (runId : Nat) (now : Time) : Op Unit := do
  let run ← getRun tenantId runId
  Raising.ensure (run.status.retryable = true) .transition
  Raising.update fun s => s.putStatus runId .retrying now

inductive Call where
  | createRun (tenantId userId : String) (payload : RunCreate) (now : Time)
  | createQueuedThreadRunIfAbsent (tenantId userId : String) (payload : RunCreate) (now : Time)
  | updateRunStatus (tenantId : String) (runId : Nat) (status : RunStatus) (now : Time)
  | cancelRun (tenantId : String) (runId : Nat) (now : Time)
  | requestRunRetry (tenantId : String) (runId : Nat) (now : Time)
deriving DecidableEq, Repr

def perform (s : RunStore) : Call → RunStore
  | .createRun tenantId userId payload now => (RunStore.createRun tenantId userId payload now s).2
  | .createQueuedThreadRunIfAbsent tenantId userId payload now =>
    (RunStore.createQueuedThreadRunIfAbsent tenantId userId payload now s).2
  | .updateRunStatus tenantId runId status now =>
    (RunStore.updateRunStatus tenantId runId status now s).2
  | .cancelRun tenantId runId now => (RunStore.cancelRun tenantId runId now s).2
  | .requestRunRetry tenantId runId now => (RunStore.requestRunRetry tenantId runId now s).2

def created (s : RunStore) (tenantId userId : String) (payload : RunCreate) (now : Time) : RunStore :=
  (s.registerContext tenantId payload.workspaceId userId).addRun
    { tenantId := tenantId
      workspaceId := payload.workspaceId
      userId := userId
      threadId := payload.threadId
      triggerMessageId := payload.triggerMessageId
      status := .created
      createdAt := now
      updatedAt := now }

/-- What `create_run` asks of its arguments. -/
structure Valid (s : RunStore) (tenantId userId : String) (payload : RunCreate) : Prop where
  workspace : ∀ owner, s.workspaceTenants payload.workspaceId = some owner → owner = tenantId
  user : ∀ owner, s.userTenants userId = some owner → owner = tenantId
  thread : ∀ threadId, payload.threadId = some threadId → ∃ thread, s.threads threadId = some thread ∧
    thread.tenantId = tenantId ∧ thread.workspaceId = payload.workspaceId
  threaded : payload.threadId = none → payload.triggerMessageId = none
  trigger : ∀ messageId, payload.triggerMessageId = some messageId →
    ∃ message, s.messages messageId = some message ∧ message.tenantId = tenantId ∧
      message.workspaceId = payload.workspaceId ∧ some message.threadId = payload.threadId

section Specs

variable (s : RunStore) (tenantId userId : String) (payload : RunCreate) (now : Time)

theorem lookup_run {α : Type} (f : RunStore → Option α) (tenantOf : α → String) :
    (∃ row, f s = some row ∧ tenantOf row = tenantId ∧ lookup f tenantOf tenantId s = (.ok row, s)) ∨
      ((∀ row, f s = some row → tenantOf row ≠ tenantId) ∧
        ∃ e, lookup f tenantOf tenantId s = (.error e, s)) := by
  unfold lookup
  rw [Raising.read_bind]
  cases found : f s with
  | none => exact .inr ⟨fun row present => (by cases present), .notFound, rfl⟩
  | some row =>
    dsimp only
    rw [Raising.ensure_bind]
    by_cases own : tenantOf row = tenantId
    · rw [if_pos own]
      exact .inl ⟨row, rfl, own, rfl⟩
    · rw [if_neg own]
      refine .inr ⟨fun other present => ?_, .tenantAccess, rfl⟩
      cases present
      exact own

theorem validateContextOwnership_run (workspaceId : String) :
    ((∀ owner, s.workspaceTenants workspaceId = some owner → owner = tenantId) ∧
      (∀ owner, s.userTenants userId = some owner → owner = tenantId) ∧
      validateContextOwnership tenantId workspaceId userId s = (.ok (), s)) ∨
    (¬((∀ owner, s.workspaceTenants workspaceId = some owner → owner = tenantId) ∧
      ∀ owner, s.userTenants userId = some owner → owner = tenantId) ∧
      ∃ e, validateContextOwnership tenantId workspaceId userId s = (.error e, s)) := by
  have owned (found : Option String) : (found.all (fun owner => decide (owner = tenantId)) = true) ↔
      ∀ owner, found = some owner → owner = tenantId := by
    cases found <;> simp
  unfold validateContextOwnership
  rw [Raising.read_bind, Raising.ensure_bind]
  by_cases workspace : (s.workspaceTenants workspaceId).all (fun owner => owner = tenantId) = true
  · rw [if_pos workspace, Raising.read_bind]
    unfold Raising.ensure
    by_cases user : (s.userTenants userId).all (fun owner => owner = tenantId) = true
    · rw [if_pos user]
      exact .inl ⟨(owned _).mp workspace, (owned _).mp user, rfl⟩
    · rw [if_neg user]
      exact .inr ⟨fun both => user ((owned _).mpr both.2), _, rfl⟩
  · rw [if_neg workspace]
    exact .inr ⟨fun both => workspace ((owned _).mpr both.1), _, rfl⟩

theorem validateThread_run :
    ((∀ threadId, payload.threadId = some threadId → ∃ thread, s.threads threadId = some thread ∧
        thread.tenantId = tenantId ∧ thread.workspaceId = payload.workspaceId) ∧
      (payload.threadId = none → payload.triggerMessageId = none) ∧
      validateThread tenantId payload s = (.ok (), s)) ∨
    (¬((∀ threadId, payload.threadId = some threadId → ∃ thread, s.threads threadId = some thread ∧
        thread.tenantId = tenantId ∧ thread.workspaceId = payload.workspaceId) ∧
      (payload.threadId = none → payload.triggerMessageId = none)) ∧
      ∃ e, validateThread tenantId payload s = (.error e, s)) := by
  unfold validateThread
  cases threaded : payload.threadId with
  | none =>
    dsimp only
    unfold Raising.ensure
    split
    · next untriggered => exact .inl ⟨fun _ given => (by cases given), fun _ => untriggered, rfl⟩
    · next triggered => exact .inr ⟨fun both => triggered (both.2 rfl), _, rfl⟩
  | some threadId =>
    dsimp only
    obtain ⟨thread, found, own, read⟩ | ⟨foreign, e, raised⟩ :=
      lookup_run s tenantId (fun s => s.threads threadId) ChatThreadRow.tenantId
    · unfold getChatThread
      rw [Raising.bind_of_ok read]
      unfold Raising.ensure
      split
      · next workspace =>
        refine .inl ⟨fun other given => ?_, fun given => (by cases given), rfl⟩
        cases given
        exact ⟨thread, found, own, workspace⟩
      · next elsewhere =>
        refine .inr ⟨fun both => ?_, _, rfl⟩
        obtain ⟨other, present, -, workspace⟩ := both.1 threadId rfl
        rw [found] at present
        cases present
        exact elsewhere workspace
    · unfold getChatThread
      rw [Raising.bind_of_error raised]
      refine .inr ⟨fun both => ?_, e, rfl⟩
      obtain ⟨thread, present, own, -⟩ := both.1 threadId rfl
      exact foreign thread present own

theorem validateTrigger_run :
    ((∀ messageId, payload.triggerMessageId = some messageId →
        ∃ message, s.messages messageId = some message ∧ message.tenantId = tenantId ∧
          message.workspaceId = payload.workspaceId ∧ some message.threadId = payload.threadId) ∧
      validateTrigger tenantId payload s = (.ok (), s)) ∨
    (¬(∀ messageId, payload.triggerMessageId = some messageId →
        ∃ message, s.messages messageId = some message ∧ message.tenantId = tenantId ∧
          message.workspaceId = payload.workspaceId ∧ some message.threadId = payload.threadId) ∧
      ∃ e, validateTrigger tenantId payload s = (.error e, s)) := by
  unfold validateTrigger
  cases triggerId : payload.triggerMessageId with
  | none => exact .inl ⟨fun _ given => (by cases given), rfl⟩
  | some messageId =>
    dsimp only
    obtain ⟨message, found, own, read⟩ | ⟨foreign, e, raised⟩ :=
      lookup_run s tenantId (fun s => s.messages messageId) ChatMessageRow.tenantId
    · unfold getChatMessage
      rw [Raising.bind_of_ok read]
      unfold Raising.ensure
      split
      · next matching =>
        refine .inl ⟨fun other given => ?_, rfl⟩
        cases given
        exact ⟨message, found, own, matching⟩
      · next other =>
        refine .inr ⟨fun all => ?_, _, rfl⟩
        obtain ⟨same, present, -, matching⟩ := all messageId rfl
        rw [found] at present
        cases present
        exact other matching
    · unfold getChatMessage
      rw [Raising.bind_of_error raised]
      refine .inr ⟨fun all => ?_, e, rfl⟩
      obtain ⟨message, present, own, -⟩ := all messageId rfl
      exact foreign message present own

theorem createRun_run :
    (s.Valid tenantId userId payload ∧
      createRun tenantId userId payload now s =
        (.ok s.runs.length, s.created tenantId userId payload now)) ∨
    (¬s.Valid tenantId userId payload ∧ ∃ e, createRun tenantId userId payload now s = (.error e, s)) := by
  unfold createRun
  obtain ⟨workspace, user, owned⟩ | ⟨foreign, e, raised⟩ :=
    validateContextOwnership_run s tenantId userId payload.workspaceId
  · rw [Raising.bind_of_ok owned]
    obtain ⟨thread, threaded, threads⟩ | ⟨foreign, e, raised⟩ :=
      validateThread_run s tenantId payload
    · rw [Raising.bind_of_ok threads]
      obtain ⟨trigger, triggers⟩ | ⟨foreign, e, raised⟩ :=
        validateTrigger_run s tenantId payload
      · rw [Raising.bind_of_ok triggers]
        exact .inl ⟨⟨workspace, user, thread, threaded, trigger⟩, rfl⟩
      · rw [Raising.bind_of_error raised]
        exact .inr ⟨fun valid => foreign valid.trigger, e, rfl⟩
    · rw [Raising.bind_of_error raised]
      exact .inr ⟨fun valid => foreign ⟨valid.thread, valid.threaded⟩, e, rfl⟩
  · rw [Raising.bind_of_error raised]
    exact .inr ⟨fun valid => foreign ⟨valid.workspace, valid.user⟩, e, rfl⟩

def run? (s : RunStore) (tenantId : String) (runId : Nat) : Option RunRow :=
  s.runs[runId]?.filter fun run => run.tenantId = tenantId

theorem getRun_run (runId : Nat) :
    (∃ run, s.run? tenantId runId = some run ∧ getRun tenantId runId s = (.ok run, s)) ∨
      s.run? tenantId runId = none ∧ ∃ e, getRun tenantId runId s = (.error e, s) := by
  unfold getRun run?
  obtain ⟨run, found, own, read⟩ | ⟨foreign, e, raised⟩ :=
    lookup_run s tenantId (fun s => s.runs[runId]?) RunRow.tenantId
  · exact .inl ⟨run, by simp [found, own], read⟩
  · refine .inr ⟨?_, e, raised⟩
    cases found : s.runs[runId]? with
    | none => rfl
    | some run => simp [foreign run found]

variable {s tenantId} in
theorem run?_some {runId : Nat} {run : RunRow} (found : s.run? tenantId runId = some run) :
    s.runs[runId]? = some run ∧ run.tenantId = tenantId := by
  unfold run? at found
  obtain ⟨present, own⟩ := Option.filter_eq_some_iff.mp found
  exact ⟨present, by simpa using own⟩

theorem updateRunStatus_state (runId : Nat) (status : RunStatus) : (updateRunStatus tenantId runId status now s).2 =
      if (s.run? tenantId runId).isSome then s.putStatus runId status now else s := by
  unfold updateRunStatus
  obtain ⟨run, found, read⟩ | ⟨missing, e, raised⟩ := getRun_run s tenantId runId
  · rw [Raising.bind_of_ok read, Raising.update_bind, found]
    cases run.triggerMessageId with
    | none => rfl
    | some messageId =>
      dsimp only
      obtain ⟨message, -, -, read⟩ | ⟨-, e, raised⟩ := lookup_run
        (s.putStatus runId status now) tenantId (fun s => s.messages messageId)
        ChatMessageRow.tenantId
      · unfold getChatMessage
        rw [Raising.bind_of_ok read]
        rfl
      · unfold getChatMessage
        rw [Raising.bind_of_error raised]
        rfl
  · rw [Raising.bind_of_error raised, missing]
    rfl

theorem cancelRun_state (runId : Nat) :
    (cancelRun tenantId runId now s).2 =
      if (s.run? tenantId runId).any (fun run => !run.status.terminal) then
        s.putStatus runId .cancelled now else s := by
  unfold cancelRun
  obtain ⟨run, found, read⟩ | ⟨missing, e, raised⟩ := getRun_run s tenantId runId
  · rw [Raising.bind_of_ok read, Raising.ensure_bind, found]
    cases terminal : run.status.terminal <;> simp [terminal]
  · rw [Raising.bind_of_error raised, missing]
    rfl

theorem requestRunRetry_state (runId : Nat) :
    (requestRunRetry tenantId runId now s).2 =
      if (s.run? tenantId runId).any (fun run => run.status.retryable) then
        s.putStatus runId .retrying now else s := by
  unfold requestRunRetry
  obtain ⟨run, found, read⟩ | ⟨missing, e, raised⟩ := getRun_run s tenantId runId
  · rw [Raising.bind_of_ok read, Raising.ensure_bind, found]
    cases retryable : run.status.retryable <;> simp [retryable]
  · rw [Raising.bind_of_error raised, missing]
    rfl

end Specs

end RunStore

end Taroai.Store
