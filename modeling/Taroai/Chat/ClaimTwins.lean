import Mathlib.Data.List.Sort
import Taroai.Chat.Thread
import Taroai.Clock
import Taroai.Lib.Table

/-! `claim_next_queued_message` of the in-memory store and of the SQL store. The SQL statement
asks for the kind of a `ready` message only, the in-memory filter for that of a `queued` one
too: the stores agree until the SQL store comes to a manual message that is `queued`. -/

namespace Taroai.Chat

structure ThreadRow where
  id : String
  tenantId : String
deriving DecidableEq, Repr

structure MessageRow where
  id : String
  tenantId : String
  threadId : String
  sequence : Nat
  kind : String
  dispatchStatus : ChatMessageDispatchStatus
  updatedAt : Time
deriving DecidableEq, Repr

inductive ChatStoreError where
  | notFound (message : String)
  | tenantAccess (message : String)
deriving DecidableEq, Repr

abbrev ThreadRows := Table ThreadRow.id
abbrev MessageRows := Table MessageRow.id

namespace MessageRow

def inThread (tenantId threadId : String) (message : MessageRow) : Bool :=
  decide (message.tenantId = tenantId) && decide (message.threadId = threadId)

/-- The order of a thread: `(sequence, id)`. -/
def Precedes (a b : MessageRow) : Prop :=
  a.sequence < b.sequence ∨ a.sequence = b.sequence ∧ a.id ≤ b.id

instance : DecidableRel Precedes := fun a b =>
  inferInstanceAs (Decidable (a.sequence < b.sequence ∨ a.sequence = b.sequence ∧ a.id ≤ b.id))

instance : IsTrans MessageRow Precedes where
  trans a b c := by
    rintro (less | ⟨same, before⟩) (less' | ⟨same', before'⟩)
    · exact Or.inl (less.trans less')
    · exact Or.inl (same' ▸ less)
    · exact Or.inl (same ▸ less')
    · exact Or.inr ⟨same.trans same', String.le_trans before before'⟩

instance : Std.Total Precedes where
  total a b := by
    rcases lt_trichotomy a.sequence b.sequence with less | same | more
    · exact Or.inl (Or.inl less)
    · exact (String.le_total a.id b.id).imp (fun before => Or.inr ⟨same, before⟩)
        fun after => Or.inr ⟨same.symm, after⟩
    · exact Or.inr (Or.inl more)

theorem id_of_precedes {a b : MessageRow} (before : a.Precedes b) (after : b.Precedes a) :
    a.id = b.id := by
  obtain less | ⟨same, le⟩ := before
  · obtain more | ⟨same, -⟩ := after <;> omega
  · obtain more | ⟨-, ge⟩ := after
    · omega
    · exact String.le_antisymm le ge

def claimable (message : MessageRow) : Bool :=
  (decide (message.dispatchStatus = .ready) || decide (message.dispatchStatus = .queued)) &&
    decide (message.kind ≠ "manual_queue")

def sqlClaimable (message : MessageRow) : Bool :=
  decide (message.dispatchStatus = .queued) ||
    decide (message.dispatchStatus = .ready) && decide (message.kind ≠ "manual_queue")

def inflight (message : MessageRow) (now : Time) : MessageRow :=
  { message with dispatchStatus := .inflight, updatedAt := now }

def queuedManual (message : MessageRow) : Bool :=
  decide (message.dispatchStatus = .queued) && decide (message.kind = "manual_queue")

theorem claimable_iff (message : MessageRow) :
    message.claimable = (message.sqlClaimable && !message.queuedManual) := by
  unfold claimable sqlClaimable queuedManual
  by_cases manual : message.kind = "manual_queue" <;> cases message.dispatchStatus <;>
    simp [manual]

end MessageRow

namespace MessageRows

/-- `list_chat_messages` of a thread that exists. -/
def ofThread (messages : MessageRows) (tenantId threadId : String) : List MessageRow :=
  (messages.entries.filter (MessageRow.inThread tenantId threadId)).insertionSort
    MessageRow.Precedes

end MessageRows

/-- `get_chat_thread` of the in-memory store. -/
def getChatThread (threads : ThreadRows) (tenantId threadId : String) :
    Except ChatStoreError ThreadRow :=
  match threads.get? threadId with
  | none => .error (.notFound s!"Chat thread not found: {threadId}")
  | some thread =>
    if thread.tenantId = tenantId then .ok thread
    else .error (.tenantAccess s!"Chat thread {threadId} is not in tenant {tenantId}")

/-- `claim_next_queued_message` of the in-memory store. -/
def claimNextQueuedMessage (threads : ThreadRows) (tenantId threadId : String) (now : Time)
    (messages : MessageRows) : Except ChatStoreError (Option MessageRow) × MessageRows :=
  match getChatThread threads tenantId threadId with
  | .error e => (.error e, messages)
  | .ok _ =>
    match (messages.ofThread tenantId threadId).filter MessageRow.claimable with
    | [] => (.ok none, messages)
    | message :: _ => (.ok (some (message.inflight now)), messages.put (message.inflight now))

/-- The SELECT inside the statement: `ORDER BY sequence, id LIMIT 1`. -/
def sqlCandidate (tenantId threadId : String) (messages : MessageRows) : Option MessageRow :=
  ((messages.entries.filter fun message =>
    message.inThread tenantId threadId && message.sqlClaimable).insertionSort
      MessageRow.Precedes).head?

/-- `claim_next_queued_message` of the SQL store. -/
def sqlClaimNextQueuedMessage (threads : ThreadRows) (tenantId threadId : String) (now : Time)
    (messages : MessageRows) : Except ChatStoreError (Option MessageRow) × MessageRows :=
  if (threads.get? threadId).any (fun thread => thread.tenantId = tenantId) then
    match sqlCandidate tenantId threadId messages with
    | none => (.ok none, messages)
    | some candidate =>
      -- the update asks for the condition once more
      match messages.entries.find? fun message => decide (message.tenantId = tenantId) &&
          decide (message.id = candidate.id) && message.sqlClaimable with
      | none => (.ok none, messages)
      | some message => (.ok (some (message.inflight now)), messages.put (message.inflight now))
  else (.error (.notFound s!"Chat thread not found: {threadId}"), messages)

def claims (claim : Time → MessageRows → Except ChatStoreError (Option MessageRow) × MessageRows) :
    List Time → MessageRows → List (Except ChatStoreError (Option MessageRow)) × MessageRows
  | [], messages => ([], messages)
  | now :: later, messages =>
    let (answer, messages) := claim now messages
    let (answers, messages) := claims claim later messages
    (answer :: answers, messages)

section Candidates

variable {threads : ThreadRows} {tenantId threadId : String} {messages : MessageRows} {now : Time}
  {message : MessageRow} {rest : List MessageRow}

def sqlClaimables (tenantId threadId : String) (messages : MessageRows) : List MessageRow :=
  (messages.ofThread tenantId threadId).filter MessageRow.sqlClaimable

theorem mem_ofThread :
    message ∈ messages.ofThread tenantId threadId ↔
      message ∈ messages.entries ∧ message.inThread tenantId threadId = true := by
  rw [MessageRows.ofThread, List.mem_insertionSort, List.mem_filter]

theorem eq_of_id {a b : MessageRow} (ha : a ∈ messages.entries) (hb : b ∈ messages.entries)
    (same : a.id = b.id) : a = b := by
  have := Table.get?_of_mem ha
  rw [same, Table.get?_of_mem hb] at this
  exact (Option.some.inj this).symm

theorem nodup_ofThread (messages : MessageRows) :
    ((messages.ofThread tenantId threadId).map MessageRow.id).Nodup := by
  have distinct : ((messages.entries.filter (MessageRow.inThread tenantId threadId)).map
      MessageRow.id).Nodup := (List.filter_sublist.map _).nodup messages.nodup
  exact (((List.perm_insertionSort _ _).map MessageRow.id).nodup_iff).mpr distinct

theorem sqlCandidate_eq :
    sqlCandidate tenantId threadId messages = (sqlClaimables tenantId threadId messages).head? := by
  unfold sqlCandidate sqlClaimables
  congr 1
  have ordered := List.pairwise_insertionSort MessageRow.Precedes
  refine List.Perm.eq_of_pairwise (fun a b ha hb before after => ?_) (ordered _)
    ((ordered _).filter _) ?_
  · have stored : a ∈ messages.entries := by
      rw [List.mem_insertionSort] at ha
      exact List.mem_of_mem_filter ha
    have stored' : b ∈ messages.entries := (mem_ofThread.mp (List.mem_of_mem_filter hb)).1
    exact eq_of_id stored stored' (MessageRow.id_of_precedes before after)
  · refine (List.perm_insertionSort _ _).trans ?_
    have swapped : messages.entries.filter (fun message =>
        message.inThread tenantId threadId && message.sqlClaimable) =
        (messages.entries.filter (MessageRow.inThread tenantId threadId)).filter
          MessageRow.sqlClaimable := by
      rw [List.filter_filter]
      exact List.filter_congr fun message _ => Bool.and_comm _ _
    rw [swapped]
    exact ((List.perm_insertionSort _ _).filter _).symm

theorem claimables_eq : (messages.ofThread tenantId threadId).filter MessageRow.claimable =
    (sqlClaimables tenantId threadId messages).filter fun message => !message.queuedManual := by
  unfold sqlClaimables
  rw [List.filter_filter]
  exact List.filter_congr fun message _ => (message.claimable_iff).trans (Bool.and_comm _ _)

theorem mem_of_sqlClaimables (next : sqlClaimables tenantId threadId messages = message :: rest) :
    message ∈ messages.ofThread tenantId threadId ∧ message.sqlClaimable = true := by
  have member : message ∈ sqlClaimables tenantId threadId messages := by rw [next]; simp
  exact List.mem_filter.mp member

theorem ofThread_put (member : message ∈ messages.ofThread tenantId threadId) (now : Time) :
    MessageRows.ofThread (messages.put (message.inflight now)) tenantId threadId =
      (messages.ofThread tenantId threadId).map fun other =>
        if other.id = message.id then message.inflight now else other := by
  obtain ⟨stored, inside⟩ := mem_ofThread.mp member
  have present : messages.get? (message.inflight now).id = some message := Table.get?_of_mem stored
  have same (other : MessageRow) (there : other ∈ messages.entries) :
      other.id = message.id → other = message := eq_of_id there stored
  have filtered : (messages.put (message.inflight now)).entries.filter
      (MessageRow.inThread tenantId threadId) =
      (messages.entries.filter (MessageRow.inThread tenantId threadId)).map fun other =>
        if other.id = message.id then message.inflight now else other := by
    rw [Table.entries_put present, List.filter_map]
    refine congrArg (List.map _) (List.filter_congr fun other there => ?_)
    rw [Function.comp_apply]
    split
    · next equal =>
      rw [same other there equal]
      rfl
    · rfl
  have keeps (other : MessageRow) (there : other ∈ messages.entries) :
      (if other.id = message.id then message.inflight now else other).sequence = other.sequence ∧
      (if other.id = message.id then message.inflight now else other).id = other.id := by
    split
    · next equal =>
      rw [same other there equal]
      exact ⟨rfl, rfl⟩
    · exact ⟨rfl, rfl⟩
  unfold MessageRows.ofThread
  rw [filtered]
  refine (List.map_insertionSort MessageRow.Precedes MessageRow.Precedes _ _ ?_).symm
  intro a ha b hb
  obtain ⟨a_sequence, a_id⟩ := keeps a (List.mem_of_mem_filter ha)
  obtain ⟨b_sequence, b_id⟩ := keeps b (List.mem_of_mem_filter hb)
  simp only [MessageRow.Precedes, a_sequence, a_id, b_sequence, b_id]

theorem apart_of_next (next : sqlClaimables tenantId threadId messages = message :: rest) :
    ∀ other ∈ rest, other.id ≠ message.id := by
  have distinct : ((message :: rest).map MessageRow.id).Nodup := by
    rw [← next]
    exact (List.filter_sublist.map _).nodup (nodup_ofThread messages)
  intro other there equal
  refine (List.nodup_cons.mp distinct).1 ?_
  rw [← equal]
  exact List.mem_map_of_mem there

theorem sqlClaimables_put (next : sqlClaimables tenantId threadId messages = message :: rest)
    (now : Time) :
    sqlClaimables tenantId threadId (messages.put (message.inflight now)) = rest := by
  obtain ⟨member, -⟩ := mem_of_sqlClaimables next
  have apart := apart_of_next next
  have others : (messages.ofThread tenantId threadId).filter (MessageRow.sqlClaimable ∘ fun other =>
      if other.id = message.id then message.inflight now else other) =
      (sqlClaimables tenantId threadId messages).filter fun other => other.id ≠ message.id := by
    unfold sqlClaimables
    rw [List.filter_filter]
    refine List.filter_congr fun other _ => ?_
    by_cases equal : other.id = message.id
    · simp [equal, MessageRow.sqlClaimable, MessageRow.inflight]
    · simp [equal]
  have kept : rest.filter (fun other => other.id ≠ message.id) = rest :=
    List.filter_eq_self.mpr fun other there => by simpa using apart other there
  unfold sqlClaimables
  rw [ofThread_put member, List.filter_map, others, next, List.filter_cons_of_neg (by simp), kept]
  exact (List.map_congr_left fun other there => if_neg (apart other there)).trans (List.map_id rest)

theorem sqlClaim_eq (here : (threads.get? threadId).any (fun t => t.tenantId = tenantId) = true) :
    sqlClaimNextQueuedMessage threads tenantId threadId now messages =
      match sqlClaimables tenantId threadId messages with
      | [] => (.ok none, messages)
      | message :: _ => (.ok (some (message.inflight now)), messages.put (message.inflight now)) := by
  rw [sqlClaimNextQueuedMessage, if_pos here, sqlCandidate_eq]
  cases next : sqlClaimables tenantId threadId messages with
  | nil => rfl
  | cons message rest =>
    obtain ⟨member, waiting⟩ := mem_of_sqlClaimables next
    obtain ⟨stored, inside⟩ := mem_ofThread.mp member
    have of_tenant : message.tenantId = tenantId := by
      simp only [MessageRow.inThread, Bool.and_eq_true, decide_eq_true_eq] at inside
      exact inside.1
    have again : messages.entries.find? (fun other => decide (other.tenantId = tenantId) &&
        decide (other.id = message.id) && other.sqlClaimable) = some message := by
      obtain ⟨found, present⟩ : ∃ found, messages.entries.find? (fun other =>
          decide (other.tenantId = tenantId) && decide (other.id = message.id) &&
            other.sqlClaimable) = some found := by
        rw [← Option.isSome_iff_exists, List.find?_isSome]
        exact ⟨message, stored, by simp [of_tenant, waiting]⟩
      have equal : found.id = message.id := by
        have passed := List.find?_some present
        simp only [Bool.and_eq_true, decide_eq_true_eq] at passed
        exact passed.1.2
      rw [present, eq_of_id (List.mem_of_find?_eq_some present) stored equal]
    simp only [List.head?_cons, again]

theorem claim_eq (here : (threads.get? threadId).any (fun t => t.tenantId = tenantId) = true) :
    claimNextQueuedMessage threads tenantId threadId now messages =
      match (sqlClaimables tenantId threadId messages).filter fun m => !m.queuedManual with
      | [] => (.ok none, messages)
      | message :: _ => (.ok (some (message.inflight now)), messages.put (message.inflight now)) := by
  cases present : threads.get? threadId with
  | none => simp [present] at here
  | some thread =>
    have of_tenant : thread.tenantId = tenantId := by simpa [present] using here
    have found : getChatThread threads tenantId threadId = .ok thread := by
      rw [getChatThread, present]
      exact if_pos of_tenant
    rw [claimNextQueuedMessage, found, claimables_eq]

theorem claims_nil (claim : Time → MessageRows →
    Except ChatStoreError (Option MessageRow) × MessageRows) (messages : MessageRows) :
    claims claim [] messages = ([], messages) := rfl

theorem claims_cons (claim : Time → MessageRows →
    Except ChatStoreError (Option MessageRow) × MessageRows) (now : Time) (later : List Time)
    (messages : MessageRows) :
    claims claim (now :: later) messages =
      ((claim now messages).1 :: (claims claim later (claim now messages).2).1,
        (claims claim later (claim now messages).2).2) := rfl

/-- The outcomes of the calls and the messages they leave, without the class of the errors. -/
def outcome (result : List (Except ChatStoreError (Option MessageRow)) × MessageRows) :
    List (Option (Option MessageRow)) × MessageRows :=
  (result.1.map Except.toOption, result.2)

theorem toOption_inj_of_ok {answer : Except ChatStoreError (Option MessageRow)}
    {value : Option MessageRow} (same : answer.toOption = some value) : answer = .ok value := by
  cases answer with
  | error e => cases same
  | ok found => exact congrArg Except.ok (Option.some.inj same)

theorem outcome_cons_inj {answer answer' : Except ChatStoreError (Option MessageRow)}
    {result result' : List (Except ChatStoreError (Option MessageRow)) × MessageRows} :
    outcome (answer :: result.1, result.2) = outcome (answer' :: result'.1, result'.2) ↔
      answer.toOption = answer'.toOption ∧ outcome result = outcome result' := by
  simp [outcome, and_assoc]

theorem claims_missing {claim : Time → MessageRows →
    Except ChatStoreError (Option MessageRow) × MessageRows}
    (raises : ∀ now messages, ∃ e, claim now messages = (.error e, messages)) (times : List Time)
    (messages : MessageRows) :
    outcome (claims claim times messages) = (times.map fun _ => none, messages) := by
  induction times with
  | nil => rfl
  | cons now later ih =>
    obtain ⟨e, raised⟩ := raises now messages
    rw [claims_cons, raised]
    have tail := Prod.mk.inj ih
    rw [outcome, List.map_cons, List.map_cons]
    exact Prod.ext (congrArg (none :: ·) tail.1) tail.2

theorem claims_other (here : (threads.get? threadId).any (fun t => t.tenantId = tenantId) = true)
    (next : sqlClaimables tenantId threadId messages = message :: rest)
    (manual : message.queuedManual = true) :
    (claimNextQueuedMessage threads tenantId threadId now messages).1 ≠
      .ok (some (message.inflight now)) := by
  rw [claim_eq here, next, List.filter_cons_of_neg (by simp [manual])]
  cases other : rest.filter fun m => !m.queuedManual with
  | nil => simp
  | cons first _ =>
    intro equal
    have there : first ∈ rest.filter fun m => !m.queuedManual := by rw [other]; simp
    have same : (first.inflight now).id = (message.inflight now).id := by
      rw [Option.some.inj (Except.ok.inj equal)]
    exact apart_of_next next first (List.mem_of_mem_filter there) same

theorem claim_missing (threads : ThreadRows)
    (missing : ¬(threads.get? threadId).any (fun t => t.tenantId = tenantId) = true) (now : Time)
    (messages : MessageRows) :
    (∃ e, claimNextQueuedMessage threads tenantId threadId now messages = (.error e, messages)) ∧
      ∃ e, sqlClaimNextQueuedMessage threads tenantId threadId now messages =
        (.error e, messages) := by
  refine ⟨?_, _, if_neg missing⟩
  unfold claimNextQueuedMessage getChatThread
  cases present : threads.get? threadId with
  | none => exact ⟨_, rfl⟩
  | some thread =>
    have other : ¬thread.tenantId = tenantId := by simpa [present] using missing
    simp only [if_neg other]
    exact ⟨_, rfl⟩

/-- The two stores give the same messages and leave the same statuses over a sequence of claims
on a thread exactly when no manual message is queued among as many claimable messages. -/
theorem claims_agree_iff (threads : ThreadRows) (tenantId threadId : String) (times : List Time)
    (messages : MessageRows) :
    outcome (claims (claimNextQueuedMessage threads tenantId threadId) times messages) =
        outcome (claims (sqlClaimNextQueuedMessage threads tenantId threadId) times messages) ↔
      ((threads.get? threadId).any (fun thread => thread.tenantId = tenantId) = true →
        ∀ message ∈ (sqlClaimables tenantId threadId messages).take times.length,
          message.queuedManual = false) := by
  by_cases here : (threads.get? threadId).any (fun thread => thread.tenantId = tenantId) = true
  · simp only [here, true_imp_iff]
    induction times generalizing messages with
    | nil => simp [claims_nil]
    | cons now later ih =>
      rw [claims_cons, claims_cons, outcome_cons_inj, claim_eq here, sqlClaim_eq here]
      cases next : sqlClaimables tenantId threadId messages with
      | nil =>
        simp only [List.filter_nil, true_and, List.take_nil, List.not_mem_nil, false_imp_iff,
          implies_true, iff_true]
        exact (ih messages).mpr (by simp [next])
      | cons message rest =>
        cases manual : message.queuedManual with
        | false =>
          rw [List.filter_cons_of_pos (by simp [manual])]
          simp only [true_and, List.length_cons, List.take_succ_cons, List.forall_mem_cons, manual]
          rw [ih, sqlClaimables_put next]
        | true =>
          have differs := @claims_other _ _ _ _ now _ _ here next manual
          rw [claim_eq here, next] at differs
          constructor
          · rintro ⟨equal, -⟩
            refine absurd ?_ differs
            exact toOption_inj_of_ok equal
          · intro ordinary
            have := ordinary message (by simp)
            rw [manual] at this
            cases this
  · simp only [here, Bool.false_eq_true, false_imp_iff, iff_true]
    rw [claims_missing fun now messages => (claim_missing threads here now messages).1,
      claims_missing fun now messages => (claim_missing threads here now messages).2]

/-- A manual message whose status is `queued`. -/
def strayMessage : MessageRow := ⟨"message", "acme", "thread", 1, "manual_queue", .queued, 0⟩

theorem stray_claimed_by_sql :
    (claimNextQueuedMessage (Table.empty.put ⟨"thread", "acme"⟩) "acme" "thread" 7
        (Table.empty.put strayMessage)).1 = .ok none ∧
      (sqlClaimNextQueuedMessage (Table.empty.put ⟨"thread", "acme"⟩) "acme" "thread" 7
        (Table.empty.put strayMessage)).1 = .ok (some (strayMessage.inflight 7)) := by
  decide

end Candidates

end Taroai.Chat
