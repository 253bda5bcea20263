import Taroai.Store.RunStore

/-! How many runs of a chat thread are active. Only `create_queued_thread_run_if_absent` looks
for an active run of the thread before it creates one; creating a run, retrying one and setting
a status do not. -/

namespace Taroai.Store.RunStore

def Active (s : RunStore) (threadId : String) (runId : Nat) : Prop :=
  ∃ run, s.runs[runId]? = some run ∧ run.threadId = some threadId ∧ run.status.terminal = false

def OneActive (s : RunStore) : Prop :=
  ∀ threadId i j, s.Active threadId i → s.Active threadId j → i = j

def Placed (s : RunStore) : Prop :=
  ∀ run ∈ s.runs, ∀ threadId, run.threadId = some threadId →
    ∃ thread, s.threads threadId = some thread ∧ thread.tenantId = run.tenantId

def Alone (s : RunStore) (threadId : String) (runId : Nat) : Prop :=
  ∀ other, s.Active threadId other → other = runId

/-- What the operations would have to look for: a run that is created in a thread, and a run
that is over and that gets an active status, finds no other active run of its thread. -/
def FindsNoOther (s : RunStore) : Call → Prop
  | .createRun tenantId userId payload _ => s.Valid tenantId userId payload →
    ∀ threadId, payload.threadId = some threadId → ∀ other, ¬s.Active threadId other
  | .createQueuedThreadRunIfAbsent .. => True
  | .updateRunStatus tenantId runId status _ => ∀ run threadId,
    s.run? tenantId runId = some run → run.threadId = some threadId →
    run.status.terminal = true → status.terminal = false → s.Alone threadId runId
  | .cancelRun .. => True
  | .requestRunRetry tenantId runId _ => ∀ run threadId,
    s.run? tenantId runId = some run → run.threadId = some threadId →
    run.status.retryable = true → s.Alone threadId runId

section Steps

variable {s : RunStore}

theorem active_putStatus {runId : Nat} {run : RunRow} (found : s.runs[runId]? = some run)
    (status : RunStatus) (now : Time) (threadId : String) (i : Nat) :
    (s.putStatus runId status now).Active threadId i ↔
      if i = runId then run.threadId = some threadId ∧ status.terminal = false
      else s.Active threadId i := by
  unfold Active putStatus
  dsimp only
  rw [List.getElem?_modify]
  by_cases same : i = runId
  · subst same
    rw [if_pos rfl, found]
    simp
  · rw [if_neg same]
    simp [Ne.symm same]

theorem oneActive_putStatus (one : s.OneActive) {runId : Nat} {run : RunRow}
    (found : s.runs[runId]? = some run) (status : RunStatus) (now : Time) :
    (s.putStatus runId status now).OneActive ↔
      (status.terminal = false → ∀ threadId, run.threadId = some threadId →
        s.Alone threadId runId) := by
  constructor
  · intro after active threadId threaded other there
    by_contra apart
    refine apart (after threadId other runId ?_ ?_)
    · rw [active_putStatus found, if_neg apart]
      exact there
    · rw [active_putStatus found, if_pos rfl]
      exact ⟨threaded, active⟩
  · intro alone threadId i j first second
    rw [active_putStatus found] at first second
    split at first
    · next here =>
      obtain ⟨threaded, active⟩ := first
      split at second
      · next there => rw [here, there]
      · rw [here]
        exact (alone active threadId threaded j second).symm
    · split at second
      · next there =>
        obtain ⟨threaded, active⟩ := second
        rw [there]
        exact alone active threadId threaded i first
      · exact one threadId i j first second

theorem OneActive.alone (one : s.OneActive) {threadId : String} {runId : Nat} {run : RunRow}
    (found : s.runs[runId]? = some run) (threaded : run.threadId = some threadId)
    (active : run.status.terminal = false) : s.Alone threadId runId :=
  fun other there => one threadId other runId there ⟨run, found, threaded, active⟩

variable {tenantId userId : String} {payload : RunCreate} {now : Time}

theorem active_created (threadId : String) (i : Nat) :
    (s.created tenantId userId payload now).Active threadId i ↔
      s.Active threadId i ∨ i = s.runs.length ∧ payload.threadId = some threadId := by
  unfold Active created addRun registerContext
  dsimp only
  obtain before | new | after := Nat.lt_trichotomy i s.runs.length
  · rw [List.getElem?_append_left before]
    have old : i ≠ s.runs.length := Nat.ne_of_lt before
    simp [old]
  · subst new
    rw [List.getElem?_append_right (Nat.le_refl _), Nat.sub_self]
    simp [RunStatus.terminal]
  · obtain ⟨k, past⟩ := Nat.exists_eq_succ_of_ne_zero (Nat.sub_ne_zero_of_lt after)
    have gone : s.runs[i]? = none := List.getElem?_eq_none (Nat.le_of_lt after)
    have later : i ≠ s.runs.length := Nat.ne_of_gt after
    rw [List.getElem?_append_right (Nat.le_of_lt after), past, gone]
    simp [later]

theorem oneActive_created (one : s.OneActive) :
    (s.created tenantId userId payload now).OneActive ↔
      ∀ threadId, payload.threadId = some threadId → ∀ other, ¬s.Active threadId other := by
  have unused (threadId : String) : ¬s.Active threadId s.runs.length := by
    rintro ⟨run, found, -⟩
    rw [List.getElem?_eq_none (Nat.le_refl _)] at found
    cases found
  constructor
  · intro after threadId threaded other there
    have same := after threadId other s.runs.length ((active_created _ _).mpr (.inl there))
      ((active_created _ _).mpr (.inr ⟨rfl, threaded⟩))
    exact unused threadId (same ▸ there)
  · intro free threadId i j first second
    obtain old | ⟨new, threaded⟩ := (active_created _ _).mp first
    · obtain old' | ⟨-, threaded⟩ := (active_created _ _).mp second
      · exact one threadId i j old old'
      · exact absurd old (free threadId threaded i)
    · obtain old' | ⟨new', -⟩ := (active_created _ _).mp second
      · exact absurd old' (free threadId threaded j)
      · rw [new, new']

theorem placed_putStatus (placed : s.Placed) (runId : Nat) (status : RunStatus) (now : Time) :
    (s.putStatus runId status now).Placed := by
  intro run member threadId threaded
  obtain ⟨i, at_i⟩ := List.mem_iff_getElem?.mp member
  unfold putStatus at at_i
  dsimp only at at_i
  rw [List.getElem?_modify] at at_i
  obtain ⟨before, found, same⟩ := Option.map_eq_some_iff.mp at_i
  have before_placed := placed before (List.mem_of_getElem? found) threadId
  by_cases here : runId = i
  · rw [if_pos here] at same
    subst same
    exact before_placed threaded
  · rw [if_neg here] at same
    subst same
    exact before_placed threaded

theorem placed_created (placed : s.Placed) (valid : s.Valid tenantId userId payload) :
    (s.created tenantId userId payload now).Placed := by
  intro run member threadId threaded
  obtain old | new := List.mem_append.mp member
  · exact placed run old threadId threaded
  · rw [List.mem_singleton.mp new] at threaded ⊢
    obtain ⟨thread, found, own, -⟩ := valid.thread threadId threaded
    exact ⟨thread, found, own⟩

theorem hasActiveThreadRun_iff (placed : s.Placed) {threadId : String} {thread : ChatThreadRow}
    (found : s.threads threadId = some thread) (own : thread.tenantId = tenantId) :
    s.hasActiveThreadRun tenantId threadId = true ↔ ∃ i, s.Active threadId i := by
  unfold hasActiveThreadRun Active
  rw [List.any_eq_true]
  constructor
  · rintro ⟨run, member, holds⟩
    obtain ⟨i, at_i⟩ := List.mem_iff_getElem?.mp member
    simp only [Bool.and_eq_true, decide_eq_true_eq, Bool.not_eq_true'] at holds
    exact ⟨i, run, at_i, holds.1.2, holds.2⟩
  · rintro ⟨i, run, at_i, threaded, active⟩
    have member := List.mem_of_getElem? at_i
    obtain ⟨other, same, tenant⟩ := placed run member threadId threaded
    rw [found] at same
    cases same
    exact ⟨run, member, by simp [← tenant, own, threaded, active]⟩

end Steps

section Calls

variable {s : RunStore}

theorem run?_created (tenantId userId : String) (payload : RunCreate) (now : Time) :
    ∃ run, (s.created tenantId userId payload now).runs[s.runs.length]? = some run ∧
      run.threadId = payload.threadId ∧
      (s.created tenantId userId payload now).run? tenantId s.runs.length = some run := by
  refine ⟨_, List.getElem?_concat_length, rfl, ?_⟩
  unfold run? created addRun registerContext
  dsimp only
  rw [List.getElem?_concat_length]
  simp

theorem createQueuedThreadRunIfAbsent_state (placed : s.Placed) (tenantId userId : String)
    (payload : RunCreate) (now : Time) :
    (createQueuedThreadRunIfAbsent tenantId userId payload now s).2 = s ∨
      s.Valid tenantId userId payload ∧
      (∀ threadId, payload.threadId = some threadId → ∀ other, ¬s.Active threadId other) ∧
      (createQueuedThreadRunIfAbsent tenantId userId payload now s).2 =
        (s.created tenantId userId payload now).putStatus s.runs.length .queued now := by
  unfold createQueuedThreadRunIfAbsent
  cases threaded : payload.threadId with
  | none => exact .inl rfl
  | some threadId =>
    dsimp only
    unfold getChatThread
    obtain ⟨thread, found, own, read⟩ | ⟨-, e, raised⟩ :=
      lookup_run s tenantId (fun s => s.threads threadId) ChatThreadRow.tenantId
    · rw [Raising.bind_of_ok read, Raising.read_bind]
      cases active : s.hasActiveThreadRun tenantId threadId with
      | true => exact .inl rfl
      | false =>
        have free : ∀ other, ¬s.Active threadId other := fun other there => by
          rw [(hasActiveThreadRun_iff placed found own).mpr ⟨other, there⟩] at active
          cases active
        simp only [Bool.false_eq_true, if_false]
        obtain ⟨valid, made⟩ | ⟨-, e, raised⟩ := createRun_run s tenantId userId payload now
        · rw [Raising.bind_of_ok made, updateRunStatus_state]
          obtain ⟨run, -, -, mine⟩ := run?_created (s := s) tenantId userId payload now
          rw [mine]
          refine .inr ⟨valid, fun other same => ?_, rfl⟩
          cases same
          exact free
        · rw [Raising.bind_of_error raised]
          exact .inl rfl
    · rw [Raising.bind_of_error raised]
      exact .inl rfl

theorem createRun_state (s : RunStore) (tenantId userId : String) (payload : RunCreate) (now : Time) :
    s.Valid tenantId userId payload ∧
      (createRun tenantId userId payload now s).2 = s.created tenantId userId payload now ∨
    ¬s.Valid tenantId userId payload ∧ (createRun tenantId userId payload now s).2 = s := by
  obtain ⟨valid, made⟩ | ⟨invalid, e, raised⟩ := createRun_run s tenantId userId payload now
  · exact .inl ⟨valid, by rw [made]⟩
  · exact .inr ⟨invalid, by rw [raised]⟩

theorem placed_perform (placed : s.Placed) (call : Call) : (s.perform call).Placed := by
  cases call with
  | createRun tenantId userId payload now =>
    dsimp only [perform]
    obtain ⟨valid, made⟩ | ⟨-, unchanged⟩ := createRun_state s tenantId userId payload now
    · rw [made]
      exact placed_created placed valid
    · rw [unchanged]
      exact placed
  | createQueuedThreadRunIfAbsent tenantId userId payload now =>
    dsimp only [perform]
    obtain unchanged | ⟨valid, -, made⟩ :=
      createQueuedThreadRunIfAbsent_state placed tenantId userId payload now
    · rw [unchanged]
      exact placed
    · rw [made]
      exact placed_putStatus (placed_created placed valid) _ _ _
  | updateRunStatus tenantId runId status now =>
    dsimp only [perform]
    rw [updateRunStatus_state]
    split
    · exact placed_putStatus placed _ _ _
    · exact placed
  | cancelRun tenantId runId now =>
    dsimp only [perform]
    rw [cancelRun_state]
    split
    · exact placed_putStatus placed _ _ _
    · exact placed
  | requestRunRetry tenantId runId now =>
    dsimp only [perform]
    rw [requestRunRetry_state]
    split
    · exact placed_putStatus placed _ _ _
    · exact placed

theorem oneActive_perform (placed : s.Placed) (one : s.OneActive) (call : Call) :
    (s.perform call).OneActive ↔ s.FindsNoOther call := by
  cases call with
  | createRun tenantId userId payload now =>
    dsimp only [perform, FindsNoOther]
    obtain ⟨valid, made⟩ | ⟨invalid, unchanged⟩ := createRun_state s tenantId userId payload now
    · rw [made, oneActive_created one]
      exact ⟨fun free _ => free, fun free => free valid⟩
    · rw [unchanged]
      exact ⟨fun _ valid => absurd valid invalid, fun _ => one⟩
  | createQueuedThreadRunIfAbsent tenantId userId payload now =>
    dsimp only [perform, FindsNoOther]
    refine ⟨fun _ => trivial, fun _ => ?_⟩
    obtain unchanged | ⟨valid, free, made⟩ :=
      createQueuedThreadRunIfAbsent_state placed tenantId userId payload now
    · rw [unchanged]
      exact one
    · have one' : (s.created tenantId userId payload now).OneActive :=
        (oneActive_created one).mpr free
      obtain ⟨run, found, threaded, -⟩ := run?_created (s := s) tenantId userId payload now
      rw [made, oneActive_putStatus one' found]
      rintro - threadId same other there
      rw [threaded] at same
      obtain old | ⟨new, -⟩ := (active_created threadId other).mp there
      · exact absurd old (free threadId same other)
      · exact new
  | updateRunStatus tenantId runId status now =>
    dsimp only [perform, FindsNoOther]
    rw [updateRunStatus_state]
    cases mine : s.run? tenantId runId with
    | none => exact ⟨fun _ run threadId found => (by cases found), fun _ => one⟩
    | some run =>
      obtain ⟨found, -⟩ := run?_some mine
      simp only [Option.isSome_some, if_true]
      rw [oneActive_putStatus one found]
      constructor
      · rintro alone other threadId same threaded - active
        cases same
        exact alone active threadId threaded
      · intro alone active threadId threaded
        cases ended : run.status.terminal with
        | true => exact alone run threadId rfl threaded ended active
        | false => exact one.alone found threaded ended
  | cancelRun tenantId runId now =>
    dsimp only [perform, FindsNoOther]
    refine ⟨fun _ => trivial, fun _ => ?_⟩
    rw [cancelRun_state]
    split
    · next found =>
      obtain ⟨run, mine, -⟩ := (Option.any_eq_true _ _).mp found
      rw [oneActive_putStatus one (run?_some mine).1]
      intro active
      cases active
    · exact one
  | requestRunRetry tenantId runId now =>
    dsimp only [perform, FindsNoOther]
    rw [requestRunRetry_state]
    cases mine : s.run? tenantId runId with
    | none => exact ⟨fun _ run threadId found => (by cases found), fun _ => one⟩
    | some run =>
      obtain ⟨found, -⟩ := run?_some mine
      cases retryable : run.status.retryable with
      | false =>
        simp only [Option.any_some, retryable, Bool.false_eq_true, if_false]
        refine ⟨fun _ other threadId same _ may => ?_, fun _ => one⟩
        cases same
        rw [retryable] at may
        cases may
      | true =>
        simp only [Option.any_some, retryable, if_true]
        rw [oneActive_putStatus one found]
        constructor
        · rintro alone other threadId same threaded -
          cases same
          exact alone rfl threadId threaded
        · exact fun alone _ threadId threaded => alone run threadId rfl threaded retryable

def AllFindNoOther (s : RunStore) : List Call → Prop
  | [] => True
  | call :: rest => s.FindsNoOther call ∧ AllFindNoOther (s.perform call) rest

def AlwaysOne (s : RunStore) : List Call → Prop
  | [] => True
  | call :: rest => (s.perform call).OneActive ∧ AlwaysOne (s.perform call) rest

/-- Along every run from a store without runs, each thread has at most one active run in every
state if and only if no call creates or revives a run while another one of the thread is
active. -/
theorem one_active_run_per_thread (s : RunStore) (empty : s.runs = []) (calls : List Call) :
    s.AlwaysOne calls ↔ s.AllFindNoOther calls := by
  have one : s.OneActive := by
    rintro threadId i j ⟨run, found, -⟩ -
    rw [empty] at found
    cases found
  have placed : s.Placed := by
    intro run member
    rw [empty] at member
    cases member
  clear empty
  induction calls generalizing s with
  | nil => exact Iff.rfl
  | cons call rest ih =>
    have step := oneActive_perform placed one call
    unfold AlwaysOne AllFindNoOther
    constructor
    · rintro ⟨here, later⟩
      exact ⟨step.mp here, (ih (s.perform call) here (placed_perform placed call)).mp later⟩
    · rintro ⟨here, later⟩
      exact ⟨step.mpr here,
        (ih (s.perform call) (step.mpr here) (placed_perform placed call)).mpr later⟩

end Calls

section Revived

def oneThread : RunStore where
  workspaceTenants _ := none
  userTenants _ := none
  threads id := if id = "thread" then some ⟨"tenant", "workspace"⟩ else none
  messages _ := none
  runs := []

def inThread : RunCreate := { workspaceId := "workspace", threadId := some "thread" }

def retriedLate : List Call :=
  [.createQueuedThreadRunIfAbsent "tenant" "user" inThread 0,
    .updateRunStatus "tenant" 0 .failed 1,
    .createQueuedThreadRunIfAbsent "tenant" "user" inThread 2, .requestRunRetry "tenant" 0 3]

def retriedAlone : List Call :=
  [.createRun "tenant" "user" inThread 0, .updateRunStatus "tenant" 0 .failed 1,
    .requestRunRetry "tenant" 0 2]

/-- The condition asks for nothing that the calls of `retriedAlone` do not find. -/
theorem one_active_run_when_alone :
    oneThread.AlwaysOne retriedAlone ↔ oneThread.AllFindNoOther retriedAlone :=
  one_active_run_per_thread oneThread rfl retriedAlone

theorem two_active_runs_after_a_retry :
    (retriedLate.foldl perform oneThread).runs.map (fun run => (run.threadId, run.status)) =
        [(some "thread", .retrying), (some "thread", .queued)] ∧
      ¬(retriedLate.foldl perform oneThread).OneActive := by
  refine ⟨by decide, fun one => ?_⟩
  have same := one "thread" 0 1 ⟨_, rfl, rfl, rfl⟩ ⟨_, rfl, rfl, rfl⟩
  cases same

end Revived

end Taroai.Store.RunStore
