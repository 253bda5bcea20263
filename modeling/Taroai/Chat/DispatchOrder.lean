import Taroai.Chat.Thread

/-! What keeps the dispatches of a thread in the order of its messages, as facts about the stored
records: every message that is still open comes after every message a run was created for, and a
message that a call holds comes before the open ones. Each write of the store keeps them under
a condition on the message it writes. -/

namespace Taroai.Chat.ThreadStore

def Above (s : ThreadStore) (sequence : Nat) : Prop :=
  ∀ run ∈ s.runs, run.triggerMessage < sequence

structure Held (s : ThreadStore) (sequence : Nat) : Prop where
  stored : ∃ message ∈ s.messages, message.sequence = sequence
  closed : ∀ message ∈ s.messages, message.open? = true → sequence < message.sequence
  above : s.Above sequence

structure Orderly (s : ThreadStore) : Prop where
  sorted : s.messages.Pairwise fun a b => a.sequence < b.sequence
  dispatched : (s.runs.map ThreadRun.triggerMessage).Pairwise (· < ·)
  known : ∀ run ∈ s.runs, ∃ message ∈ s.messages, message.sequence = run.triggerMessage
  waiting : ∀ message ∈ s.messages, message.open? = true → s.Above message.sequence

variable {s : ThreadStore}

theorem lt_nextSequence {message : ChatMessage} (member : message ∈ s.messages) :
    message.sequence < s.nextSequence := by
  unfold nextSequence
  generalize s.messages = messages at member
  induction messages with
  | nil => cases member
  | cons first rest ih =>
    simp only [List.map_cons, List.foldr_cons]
    rcases List.mem_cons.mp member with rfl | later
    · omega
    · have := ih later
      omega

theorem Orderly.above_nextSequence (orderly : s.Orderly) : s.Above s.nextSequence := by
  intro run member
  obtain ⟨message, stored, same⟩ := orderly.known run member
  rw [← same]
  exact lt_nextSequence stored

theorem activeRun_eq_none : s.activeRun = none ↔ ∀ run ∈ s.runs, run.status.terminal = true := by
  unfold activeRun
  rw [List.getLast?_eq_none_iff, List.filter_eq_nil_iff]
  simp

theorem mem_append {manual : Bool} {dispatchStatus : ChatMessageDispatchStatus}
    {message : ChatMessage} : message ∈ (s.append manual dispatchStatus).messages ↔
      message ∈ s.messages ∨ message = ⟨s.nextSequence, manual, dispatchStatus⟩ := by
  simp [append]

theorem mem_updateMessage {sequence : Nat} {f : ChatMessage → ChatMessage}
    {message : ChatMessage} (member : message ∈ (s.updateMessage sequence f).messages) :
    (message ∈ s.messages ∧ message.sequence ≠ sequence) ∨
      message.sequence = sequence ∧
        ∃ before ∈ s.messages, message = { f before with sequence := before.sequence } := by
  obtain ⟨before, stored, rfl⟩ := List.mem_map.mp member
  split
  · next same => exact Or.inr ⟨same, before, stored, rfl⟩
  · next other => exact Or.inl ⟨stored, other⟩

theorem sequences_updateMessage (sequence : Nat) (f : ChatMessage → ChatMessage) :
    (s.updateMessage sequence f).messages.map ChatMessage.sequence =
      s.messages.map ChatMessage.sequence := by
  simp only [updateMessage, List.map_map]
  apply List.map_congr_left
  intro message _
  simp only [Function.comp_apply]
  split <;> rfl

theorem exists_sequence_iff {messages : List ChatMessage} {sequence : Nat} :
    (∃ message ∈ messages, message.sequence = sequence) ↔
      sequence ∈ messages.map ChatMessage.sequence := by
  simp

theorem exists_sequence_updateMessage {sequence k : Nat} {f : ChatMessage → ChatMessage}
    (stored : ∃ message ∈ s.messages, message.sequence = k) :
    ∃ message ∈ (s.updateMessage sequence f).messages, message.sequence = k := by
  rw [exists_sequence_iff, sequences_updateMessage, ← exists_sequence_iff]
  exact stored

theorem sorted_iff {messages : List ChatMessage} :
    (messages.Pairwise fun a b => a.sequence < b.sequence) ↔
      (messages.map ChatMessage.sequence).Pairwise (· < ·) := by
  rw [List.pairwise_map]

theorem Orderly.append (orderly : s.Orderly) (manual : Bool)
    (dispatchStatus : ChatMessageDispatchStatus) : (s.append manual dispatchStatus).Orderly where
  sorted := by
    refine List.pairwise_append.mpr ⟨orderly.sorted, List.pairwise_singleton _ _, ?_⟩
    intro a stored b new
    rw [List.mem_singleton.mp new]
    exact lt_nextSequence stored
  dispatched := orderly.dispatched
  known := by
    intro run member
    obtain ⟨message, stored, same⟩ := orderly.known run member
    exact ⟨message, mem_append.mpr (Or.inl stored), same⟩
  waiting := by
    intro message member waits
    rcases mem_append.mp member with stored | rfl
    · exact orderly.waiting message stored waits
    · exact orderly.above_nextSequence

theorem Orderly.updateMessage (orderly : s.Orderly) {sequence : Nat}
    {f : ChatMessage → ChatMessage} (above : s.Above sequence) :
    (s.updateMessage sequence f).Orderly where
  sorted := by
    rw [sorted_iff, sequences_updateMessage, ← sorted_iff]
    exact orderly.sorted
  dispatched := orderly.dispatched
  known run member := exists_sequence_updateMessage (orderly.known run member)
  waiting := by
    intro message member waits
    rcases mem_updateMessage member with ⟨stored, -⟩ | ⟨same, -⟩
    · exact orderly.waiting message stored waits
    · rw [same]
      exact above

theorem Orderly.updateMessage_of_closed (orderly : s.Orderly) {sequence : Nat}
    {f : ChatMessage → ChatMessage}
    (closed : ∀ message, ({ f message with sequence := message.sequence } : ChatMessage).open? = false) :
    (s.updateMessage sequence f).Orderly where
  sorted := by
    rw [sorted_iff, sequences_updateMessage, ← sorted_iff]
    exact orderly.sorted
  dispatched := orderly.dispatched
  known run member := exists_sequence_updateMessage (orderly.known run member)
  waiting := by
    intro message member waits
    rcases mem_updateMessage member with ⟨stored, -⟩ | ⟨-, before, -, rfl⟩
    · exact orderly.waiting message stored waits
    · rw [closed before] at waits
      cases waits

theorem Orderly.addRun (orderly : s.Orderly) {sequence : Nat} (held : s.Held sequence) :
    (s.addRun (s.createQueuedRun sequence)).Orderly where
  sorted := orderly.sorted
  dispatched := by
    simp only [ThreadStore.addRun, createQueuedRun, List.map_append, List.map_cons, List.map_nil]
    refine List.pairwise_append.mpr ⟨orderly.dispatched, List.pairwise_singleton _ _, ?_⟩
    intro trigger member new same
    obtain ⟨run, stored, rfl⟩ := List.mem_map.mp member
    rw [List.mem_singleton.mp same]
    exact held.above run stored
  known := by
    intro run member
    rcases List.mem_append.mp member with stored | new
    · exact orderly.known run stored
    · rw [List.mem_singleton.mp new]
      exact held.stored
  waiting := by
    intro message member waits run created
    rcases List.mem_append.mp created with stored | new
    · exact orderly.waiting message member waits run stored
    · rw [List.mem_singleton.mp new]
      exact held.closed message member waits

theorem Orderly.delete (orderly : s.Orderly) {sequence : Nat} (above : s.Above sequence) :
    (s.delete sequence).Orderly where
  sorted := orderly.sorted.filter _
  dispatched := orderly.dispatched
  known := by
    intro run member
    obtain ⟨message, stored, same⟩ := orderly.known run member
    refine ⟨message, List.mem_filter.mpr ⟨stored, ?_⟩, same⟩
    have := above run member
    simp only [decide_not, Bool.not_eq_true', decide_eq_false_iff_not]
    omega
  waiting message member waits := orderly.waiting message (List.mem_filter.mp member).1 waits

theorem mem_setRunStatus {runId : Nat} {status : RunStatus} {run : ThreadRun}
    (member : run ∈ (s.setRunStatus runId status).runs) :
    ∃ before ∈ s.runs, run.triggerMessage = before.triggerMessage := by
  obtain ⟨before, stored, rfl⟩ := List.mem_map.mp member
  refine ⟨before, stored, ?_⟩
  split <;> rfl

theorem Above.setRunStatus {sequence : Nat} (above : s.Above sequence) (runId : Nat)
    (status : RunStatus) : (s.setRunStatus runId status).Above sequence := by
  intro run member
  obtain ⟨before, stored, same⟩ := mem_setRunStatus member
  rw [same]
  exact above before stored

theorem Orderly.setRunStatus (orderly : s.Orderly) (runId : Nat) (status : RunStatus) :
    (s.setRunStatus runId status).Orderly where
  sorted := orderly.sorted
  dispatched := by
    have same : (s.setRunStatus runId status).runs.map ThreadRun.triggerMessage =
        s.runs.map ThreadRun.triggerMessage := by
      simp only [ThreadStore.setRunStatus, List.map_map]
      apply List.map_congr_left
      intro run _
      simp only [Function.comp_apply]
      split <;> rfl
    rw [same]
    exact orderly.dispatched
  known := by
    intro run member
    obtain ⟨before, stored, same⟩ := mem_setRunStatus member
    rw [same]
    exact orderly.known before stored
  waiting message member waits := (orderly.waiting message member waits).setRunStatus runId status

theorem Held.append {sequence : Nat} (held : s.Held sequence) (manual : Bool)
    (dispatchStatus : ChatMessageDispatchStatus) :
    (s.append manual dispatchStatus).Held sequence where
  stored := by
    obtain ⟨message, stored, same⟩ := held.stored
    exact ⟨message, mem_append.mpr (Or.inl stored), same⟩
  closed := by
    intro message member waits
    rcases mem_append.mp member with stored | rfl
    · exact held.closed message stored waits
    · obtain ⟨other, stored, rfl⟩ := held.stored
      exact lt_nextSequence stored
  above := held.above

theorem Held.updateMessage_of_closed {sequence k : Nat} (held : s.Held sequence)
    {f : ChatMessage → ChatMessage}
    (closed : ∀ message, ({ f message with sequence := message.sequence } : ChatMessage).open? = false) :
    (s.updateMessage k f).Held sequence where
  stored := exists_sequence_updateMessage held.stored
  closed := by
    intro message member waits
    rcases mem_updateMessage member with ⟨stored, -⟩ | ⟨-, before, -, rfl⟩
    · exact held.closed message stored waits
    · rw [closed before] at waits
      cases waits
  above := held.above

/-- The first message of a thread whose others are closed is held by the call that appends it. -/
theorem Orderly.held_append (orderly : s.Orderly)
    (closed : ∀ message ∈ s.messages, message.open? = false) :
    (s.append false .inflight).Held s.nextSequence where
  stored := ⟨_, mem_append.mpr (Or.inr rfl), rfl⟩
  closed := by
    intro message member waits
    rcases mem_append.mp member with stored | rfl
    · rw [closed message stored] at waits
      cases waits
    · cases waits
  above := orderly.above_nextSequence

theorem Orderly.held_claimed (orderly : s.Orderly) {sequence : Nat}
    (steered : ∀ message ∈ s.messages, message.dispatchStatus ≠ .steering)
    (next : s.nextQueued = some sequence) : (s.setDispatch sequence .inflight).Held sequence := by
  obtain ⟨first, found, rfl⟩ := Option.map_eq_some_iff.mp next
  obtain ⟨candidate, before, after, parts, earlier⟩ := List.find?_eq_some_iff_append.mp found
  have stored : first ∈ s.messages := List.mem_of_find?_eq_some found
  have waits : first.open? = true := by simp [ChatMessage.open?, candidate]
  have later : ∀ message ∈ s.messages, message.open? = true → message ≠ first →
      first.sequence < message.sequence := by
    intro message member isOpen other
    have dispatchable : message.dispatchable = true := by
      simpa [ChatMessage.open?, steered message member] using isOpen
    rw [parts] at member
    rcases List.mem_append.mp member with front | back
    · have := earlier message front
      simp [dispatchable] at this
    · have sorted := orderly.sorted
      rw [parts, List.pairwise_append] at sorted
      rcases List.mem_cons.mp back with same | behind
      · exact absurd same other
      · exact List.rel_of_pairwise_cons sorted.2.1 behind
  exact {
    stored := exists_sequence_updateMessage ⟨first, stored, rfl⟩
    closed := by
      intro message member isOpen
      rcases mem_updateMessage member with ⟨unchanged, other⟩ | ⟨-, old, -, rfl⟩
      · apply later message unchanged isOpen
        rintro rfl
        exact other rfl
      · cases isOpen
    above := orderly.waiting first stored waits }

end Taroai.Chat.ThreadStore
