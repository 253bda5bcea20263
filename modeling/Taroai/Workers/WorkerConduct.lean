import Taroai.Workers.AgentWorker

/-! What a worker holds along `process_next`: it reports only on the job that it claimed, it
enqueues every run that its continuations created, and it comes to an end with every dead letter
ended. Along answers in which the restored state of an ended run has ended too, every dead letter
is also finished. -/

namespace Taroai.Workers

open Taroai.Chat Taroai.Workflow AgentWorker

/-- What is asked of an answer: a job is accepted, a failed run is terminal and, when strict, so is
the restored state of a run that has ended. -/
def Expected (strict : Bool) (hands : Hands) : (c : WorkerCall) → c.Answer → Prop
  | .restoreState run, state =>
    strict = true → (∃ letter ∈ hands.dead, letter.run = run ∧ letter.ended = true) →
      state.status.terminal = true
  | .failRun _, some state => state.status.terminal = true
  | .enqueue _, none => False
  | _, _ => True

def conduct (strict : Bool) : Protocol WorkerCall WorkerCall.Answer Hands where
  legal hands
    | .reapExpiredLeases => hands.dead = [] ∧ hands.handing = []
    | .executeRun run => ∃ jobId executed, hands.serving = some ⟨jobId, run, executed⟩
    | .ack jobId => ∃ run, hands.serving = some ⟨jobId, run, true⟩
    | .reject jobId => ∃ run executed, hands.serving = some ⟨jobId, run, executed⟩
    | _ => True
  answers hands c a hands' := hands' = hands.next c a ∧ Expected strict hands c a

namespace Hands

def Owing (strict : Bool) (hands : Hands) (runs : List RunRef) : Prop :=
  ∀ letter ∈ hands.dead, (letter.ended = true ∧ strict = false) ∨ letter.run ∈ runs

structure Finished (strict : Bool) (run : RunRef) (before after : Hands) : Prop where
  handing : after.handing = []
  serving : after.serving = before.serving
  dead : ∀ letter ∈ after.dead, (letter ∈ before.dead ∧ letter.run ≠ run) ∨
    (letter.ended = true ∧ strict = false)

variable {strict : Bool} {hands : Hands} {run : RunRef} {runs : List RunRef}

theorem mem_endRun {letter : DeadLetter} (member : letter ∈ (hands.endRun run).dead) :
    (letter ∈ hands.dead ∧ letter.run ≠ run) ∨
      (letter.run = run ∧ letter.ended = true ∧ ∃ before ∈ hands.dead,
        before.jobId = letter.jobId ∧ before.run = run) := by
  obtain ⟨before, present, rfl⟩ := List.mem_map.mp member
  split
  · next same => exact Or.inr ⟨same, rfl, before, present, rfl, same⟩
  · next other => exact Or.inl ⟨present, other⟩

theorem mem_drop {letter : DeadLetter} :
    letter ∈ (hands.drop run).dead ↔
      letter ∈ hands.dead ∧ ¬ (letter.run = run ∧ letter.ended = true) := by
  rw [drop, List.mem_filter, decide_eq_true_iff]

theorem Owing.endRun (owing : hands.Owing strict runs) (run : RunRef) :
    (hands.endRun run).Owing strict runs := by
  intro letter member
  rcases mem_endRun member with ⟨present, -⟩ | ⟨same, ended, before, present, -, key⟩
  · exact owing letter present
  · rcases owing before present with ⟨-, lax⟩ | listed
    · exact Or.inl ⟨ended, lax⟩
    · exact Or.inr (by rw [same, ← key]; exact listed)

theorem Owing.drop (owing : hands.Owing strict runs) (run : RunRef) :
    (hands.drop run).Owing strict runs :=
  fun letter member => owing letter (mem_drop.mp member).1

theorem Owing.of_finished {after : Hands} (owing : hands.Owing strict (run :: runs))
    (finished : Finished strict run hands after) : after.Owing strict runs := by
  intro letter member
  rcases finished.dead letter member with ⟨present, other⟩ | done
  · rcases owing letter present with done | listed
    · exact Or.inl done
    · exact Or.inr ((List.mem_cons.mp listed).resolve_left other)
  · exact Or.inl done

theorem finished_drop_endRun (empty : hands.handing = []) :
    Finished strict run hands ((hands.endRun run).drop run) where
  handing := empty
  serving := rfl
  dead := by
    intro letter member
    obtain ⟨present, kept⟩ := mem_drop.mp member
    rcases mem_endRun present with unchanged | ⟨same, ended, -⟩
    · exact Or.inl unchanged
    · exact absurd ⟨same, ended⟩ kept

theorem finished_endRun (empty : hands.handing = [])
    (lax : strict = true → ∀ letter ∈ (hands.endRun run).dead,
      ¬ (letter.run = run ∧ letter.ended = true)) :
    Finished strict run hands (hands.endRun run) where
  handing := empty
  serving := rfl
  dead := by
    intro letter member
    rcases mem_endRun member with unchanged | ⟨same, ended, -⟩
    · exact Or.inl unchanged
    · refine Or.inr ⟨ended, ?_⟩
      by_contra strictly
      exact lax (by simpa using strictly) letter member ⟨same, ended⟩

end Hands

section Continuations

variable {strict : Bool} {hands : Hands} (specs : String → WorkflowSpec)

abbrev planning (strict : Bool) (workflow : String) : Protocol PlanCall PlanCall.Answer Hands :=
  (conduct strict).along (.plan workflow) fun _ a => a

abbrev threading (strict : Bool) (thread : String) : Protocol ThreadCall ThreadCall.Answer Hands :=
  (conduct strict).along (.thread thread) fun _ a => a

theorem wp_createTaskRuns (workflow : String) (tasks : List WorkflowTask) :
    (Completing.createTaskRuns tasks).wp (planning strict workflow)
      (fun created hands' => hands' =
        { hands with handing := hands.handing ++ created.map (.child workflow) })
      (fun _ => False) hands := by
  induction tasks generalizing hands with
  | nil =>
    change hands = { hands with handing := hands.handing ++ [] }
    rw [List.append_nil]
  | cons task rest ih =>
    refine ⟨trivial, ?_⟩
    rintro index _ ⟨_, rfl, rfl, -⟩
    refine ⟨trivial, ?_⟩
    rintro ⟨⟩ _ ⟨_, -, rfl, -⟩
    refine Program.wp_bind (p := Completing.createTaskRuns rest) (Program.wp_mono ih ?_)
    rintro created _ rfl
    change Hands.mk _ _ _ = Hands.mk _ _ _
    simp [Hands.next]

theorem wp_readyRuns (spec : WorkflowSpec) (workflow : String) :
    (Completing.readyRuns spec).wp (planning strict workflow)
      (fun created hands' => hands' =
        { hands with handing := hands.handing ++ created.map (.child workflow) })
      (fun _ => False) hands := by
  have none : hands = { hands with handing := hands.handing ++ [].map (RunRef.child workflow) } := by
    rw [List.map_nil, List.append_nil]
  refine ⟨trivial, ?_⟩
  rintro status _ ⟨_, -, rfl, -⟩
  refine Program.wp_ite (fun _ => ?_) (fun _ => none)
  refine ⟨trivial, ?_⟩
  rintro tasks _ ⟨_, -, rfl, -⟩
  exact wp_createTaskRuns workflow _

theorem wp_cancelSiblings (workflow : String) (tasks : List WorkflowTask) :
    (Completing.cancelSiblings tasks).wp (planning strict workflow)
      (fun _ hands' => hands' = hands) (fun _ => False) hands := by
  induction tasks with
  | nil => exact rfl
  | cons task rest ih =>
    refine ⟨trivial, ?_⟩
    rintro ⟨⟩ _ ⟨_, -, rfl, -⟩
    exact ih

theorem wp_failWorkflow (workflow : String) :
    Completing.failWorkflow.wp (planning strict workflow)
      (fun _ hands' => hands' = hands) (fun _ => False) hands := by
  refine ⟨trivial, ?_⟩
  rintro tasks _ ⟨_, -, rfl, -⟩
  refine Program.wp_bind (p := Completing.cancelSiblings tasks)
    (Program.wp_mono (wp_cancelSiblings workflow tasks) ?_)
  rintro ⟨⟩ _ rfl
  refine ⟨trivial, ?_⟩
  rintro ⟨⟩ _ ⟨_, -, rfl, -⟩
  exact rfl

theorem wp_synthesize (workflow : String) :
    Completing.synthesize.wp (planning strict workflow)
      (fun _ hands' => hands' = hands) (fun hands' => hands' = hands) hands := by
  refine ⟨trivial, ?_⟩
  rintro caught _ ⟨_, -, rfl, -⟩
  refine Program.wp_ite (fun _ => ?_) (fun _ => rfl)
  refine ⟨trivial, ?_⟩
  rintro ⟨⟩ _ ⟨_, -, rfl, -⟩
  exact rfl

theorem wp_completeTask (spec : WorkflowSpec) (workflow : String) (task : WorkflowTask)
    (outcome : WorkflowStore.Outcome) :
    (Completing.completeTask spec task outcome).wp (planning strict workflow)
      (fun created hands' => hands' =
        { hands with handing := hands.handing ++ created.map (.child workflow) })
      (fun hands' => hands' = hands) hands := by
  have none : hands = { hands with handing := hands.handing ++ [].map (RunRef.child workflow) } := by
    rw [List.map_nil, List.append_nil]
  refine ⟨trivial, ?_⟩
  rintro status _ ⟨_, -, rfl, -⟩
  refine Program.wp_ite (fun _ => ?_) (fun _ => ?_)
  · refine ⟨trivial, ?_⟩
    rintro ⟨⟩ _ ⟨_, -, rfl, -⟩
    refine ⟨trivial, ?_⟩
    rintro tasks _ ⟨_, -, rfl, -⟩
    refine Program.wp_ite (fun _ => ?_) (fun _ => ?_)
    · refine Program.wp_ite (fun _ => none) (fun _ => ?_)
      refine Program.wp_bind (Program.wp_mono (wp_synthesize workflow) ?_)
      rintro ⟨⟩ _ rfl
      exact none
    · exact Program.wp_weaken (wp_readyRuns spec workflow) (fun _ _ same => same)
        (fun _ never => never.elim)
  · refine ⟨trivial, ?_⟩
    rintro ⟨⟩ _ ⟨_, -, rfl, -⟩
    refine Program.wp_ite (fun _ => ?_) (fun _ => none)
    refine Program.wp_bind (Program.wp_weaken (wp_failWorkflow workflow) ?_ fun _ never => never.elim)
    rintro ⟨⟩ _ rfl
    exact none

theorem wp_completeChild_plan (spec : WorkflowSpec) (workflow : String) (index : Nat)
    (outcome : WorkflowStore.Outcome) :
    (Completing.completeChild spec index outcome).wp (planning strict workflow)
      (fun created hands' => hands' =
        { hands with handing := hands.handing ++ created.map (.child workflow) })
      (fun hands' => hands' = hands) hands := by
  have none : hands = { hands with handing := hands.handing ++ [].map (RunRef.child workflow) } := by
    rw [List.map_nil, List.append_nil]
  refine ⟨trivial, ?_⟩
  rintro (_ | task) _ ⟨_, -, rfl, -⟩
  · exact none
  · exact Program.wp_ite (fun _ => none) (fun _ => wp_completeTask spec workflow task outcome)

theorem wp_completeChild (run : RunRef) (outcome : WorkflowStore.Outcome)
    (empty : hands.handing = []) :
    (AgentWorker.completeChild specs run outcome).wp (conduct strict)
      (fun created hands' => hands' = { hands with handing := created })
      (fun hands' => hands' = hands) hands := by
  have none : hands = { hands with handing := [] } := by rw [← empty]
  cases run with
  | child workflow index =>
    refine Program.wp_bind (Program.wp_embed
      (Program.wp_mono (wp_completeChild_plan (specs workflow) workflow index outcome) ?_))
    rintro created _ rfl
    change Hands.mk _ _ _ = Hands.mk _ _ _
    rw [empty, List.nil_append]
  | chat thread index => exact none
  | plain id => exact none

def started (thread : String) : Option MessageDispatch → List RunRef
  | none => []
  | some dispatch => if dispatch.runStarted then [.chat thread dispatch.run] else []

theorem wp_giveBack (strict : Bool) (hands : Hands) (thread : String) (message : Nat) :
    (ChatService.giveBack message).wp (threading strict thread)
      (fun _ _ => False) (fun hands' => hands' = hands) hands := by
  refine ⟨trivial, ?_⟩
  rintro ⟨⟩ _ ⟨_, -, rfl, -⟩
  exact rfl

theorem wp_requeueSteering_hands (thread : String) (steering : List Nat) :
    (ChatService.requeueSteering steering).wp (threading strict thread)
      (fun _ hands' => hands' = hands) (fun _ => False) hands := by
  induction steering with
  | nil => exact rfl
  | cons message rest ih =>
    refine ⟨trivial, ?_⟩
    rintro ⟨⟩ _ ⟨_, -, rfl, -⟩
    exact ih

theorem wp_dispatchClaimed (thread : String) (message : Nat) (empty : hands.handing = []) :
    (ChatService.dispatchClaimed message).wp (threading strict thread)
      (fun dispatch hands' => hands' = { hands with handing := started thread dispatch })
      (fun hands' => hands' = hands) hands := by
  have none : hands = { hands with handing := [] } := by rw [← empty]
  have back := Program.wp_weaken (wp_giveBack strict hands thread message)
    (fun (dispatch : Option MessageDispatch) hands' (never : False) => (never.elim :
      hands' = { hands with handing := started thread dispatch })) (fun _ same => same)
  refine ⟨trivial, ?_⟩
  rintro (_ | _) _ ⟨_, -, rfl, -⟩
  · exact back
  · refine ⟨trivial, ?_⟩
    rintro (_ | ⟨run, _ | _⟩) _ ⟨_, rfl, rfl, -⟩
    · exact back
    · refine ⟨trivial, ?_⟩
      rintro ⟨⟩ _ ⟨_, -, rfl, -⟩
      exact none
    · change Hands.mk _ _ _ = Hands.mk _ _ _
      rw [empty]
      rfl

theorem wp_continueThread_chat (thread : String) (empty : hands.handing = []) :
    ChatService.continueThread.wp (threading strict thread)
      (fun dispatch hands' => hands' = { hands with handing := started thread dispatch })
      (fun hands' => hands' = hands) hands := by
  have none : hands = { hands with handing := [] } := by rw [← empty]
  refine ⟨trivial, ?_⟩
  rintro (_ | _) _ ⟨_, -, rfl, -⟩
  · exact none
  · refine ⟨trivial, ?_⟩
    rintro (_ | run) _ ⟨_, -, rfl, -⟩
    · refine ⟨trivial, ?_⟩
      rintro steering _ ⟨_, -, rfl, -⟩
      refine Program.wp_bind (p := ChatService.requeueSteering steering)
        (Program.wp_weaken (wp_requeueSteering_hands thread steering) ?_ fun _ never => never.elim)
      rintro ⟨⟩ _ rfl
      refine ⟨trivial, ?_⟩
      rintro (_ | message) _ ⟨_, -, rfl, -⟩
      · exact none
      · exact wp_dispatchClaimed thread message empty
    · exact none

theorem wp_enqueue (run : RunRef) (rest : List RunRef) (holding : hands.handing = run :: rest) :
    (AgentWorker.enqueue run).wp (conduct strict)
      (fun _ hands' => hands' = { hands with handing := rest }) (fun _ => False) hands := by
  refine ⟨trivial, ?_⟩
  rintro (_ | job) _ ⟨rfl, accepted⟩
  · exact accepted.elim
  · change Hands.mk _ _ _ = Hands.mk _ _ _
    rw [holding, List.erase_cons_head]

theorem wp_enqueueAll (runs : List RunRef) (holding : hands.handing = runs) :
    (enqueueAll runs).wp (conduct strict)
      (fun _ hands' => hands' = { hands with handing := [] }) (fun _ => False) hands := by
  induction runs generalizing hands with
  | nil =>
    change hands = { hands with handing := [] }
    rw [← holding]
  | cons run rest ih =>
    refine Program.wp_bind (Program.wp_mono (wp_enqueue run rest holding) ?_)
    rintro ⟨⟩ _ rfl
    exact @ih { hands with handing := rest } rfl

theorem wp_enqueueStarted (thread : String) (dispatch : Option MessageDispatch)
    (holding : hands.handing = started thread dispatch) :
    (enqueueStarted thread dispatch).wp (conduct strict)
      (fun _ hands' => hands' = { hands with handing := [] }) (fun _ => False) hands := by
  cases dispatch with
  | none =>
    change hands = { hands with handing := [] }
    rw [← show hands.handing = [] from holding]
  | some dispatch =>
    simp only [started] at holding
    unfold enqueueStarted
    by_cases begun : dispatch.runStarted = true
    · rw [if_pos begun] at holding
      simp only [if_pos begun]
      exact wp_enqueue (.chat thread dispatch.run) [] holding
    · rw [if_neg begun] at holding
      simp only [if_neg begun]
      change hands = { hands with handing := [] }
      rw [← holding]

theorem wp_continueThread (run : RunRef) (empty : hands.handing = []) :
    (AgentWorker.continueThread run).wp (conduct strict)
      (fun _ hands' => hands' = hands) (fun hands' => hands' = hands) hands := by
  cases run with
  | child workflow index => exact rfl
  | plain id => exact rfl
  | chat thread index =>
    refine Program.wp_bind (Program.wp_embed
      (Program.wp_mono (wp_continueThread_chat thread empty) ?_))
    rintro dispatch _ rfl
    refine Program.wp_weaken (wp_enqueueStarted thread dispatch rfl) ?_ fun _ never => never.elim
    rintro ⟨⟩ _ rfl
    rw [← empty]

theorem wp_continueAfterTerminal (run : RunRef) (status : RunStatus) (state : AgentOutcome)
    (empty : hands.handing = []) :
    (continueAfterTerminal specs run status state).wp (conduct strict)
      (fun _ hands' => hands' = if state.status.terminal then hands.drop run else hands)
      (fun hands' => hands' = hands.drop run) hands := by
  refine Program.wp_ite (fun terminal => ?_) (fun running => ?_)
  · simp only [if_pos terminal]
    refine ⟨trivial, ?_⟩
    rintro task _ ⟨rfl, -⟩
    have empty' : (hands.drop run).handing = [] := empty
    refine Program.wp_bind (p := AgentWorker.completeChild specs run
      ⟨status, state.summary, state.failureReason⟩) (Program.wp_mono
      (wp_completeChild specs run ⟨status, state.summary, state.failureReason⟩ empty') ?_)
    rintro created _ rfl
    refine Program.wp_bind (p := enqueueAll created)
      (Program.wp_weaken (wp_enqueueAll created rfl) ?_ fun _ never => never.elim)
    rintro ⟨⟩ _ rfl
    have same : (⟨(hands.drop run).dead, [], (hands.drop run).serving⟩ : Hands) = hands.drop run := by
      rw [← empty']
    simp only [same]
    refine Program.wp_ite (fun _ => rfl) (fun _ => ?_)
    exact Program.wp_weaken (wp_continueThread run empty') (fun _ _ same => same)
      (fun _ same => same)
  · simp only [if_neg running]
    exact rfl

end Continuations

section Jobs

variable {strict : Bool} {hands : Hands} (specs : String → WorkflowSpec)

theorem wp_getRun (hands : Hands) (run : RunRef) :
    (AgentWorker.getRun run).wp (conduct strict)
      (fun status hands' => hands' = if status.terminal then hands.endRun run else hands)
      (fun hands' => hands' = hands) hands := by
  refine ⟨trivial, ?_⟩
  rintro (_ | status) _ ⟨rfl, -⟩
  · exact rfl
  · exact rfl

theorem wp_continue_ended (run : RunRef) (status : RunStatus) {state : AgentOutcome}
    (empty : hands.handing = []) (terminal : state.status.terminal = true) :
    (continueAfterTerminal specs run status state).wp (conduct strict)
      (fun _ hands' => hands' = hands.drop run) (fun hands' => hands'.handing = []) hands := by
  refine Program.wp_weaken (wp_continueAfterTerminal specs run status state empty) ?_ ?_
  · intro _ hands' same
    rw [same, if_pos terminal]
  · rintro _ rfl
    exact empty

theorem wp_finishDeadLetter (run : RunRef) (empty : hands.handing = []) :
    (finishDeadLetter specs run).wp (conduct strict)
      (fun _ hands' => Hands.Finished strict run hands hands') (fun hands' => hands'.handing = [])
      hands := by
  refine Program.wp_bind (Program.wp_weaken (wp_getRun hands run) ?_ ?_)
  · rintro status _ rfl
    refine ⟨trivial, ?_⟩
    rintro state _ ⟨rfl, restored⟩
    by_cases ended : status.terminal = true
    · simp only [if_pos ended] at restored ⊢
      refine Program.wp_weaken (wp_continueAfterTerminal specs run status state empty) ?_ ?_
      · rintro ⟨⟩ _ rfl
        by_cases terminal : state.status.terminal = true
        · rw [if_pos terminal]
          exact Hands.finished_drop_endRun empty
        · rw [if_neg terminal]
          exact Hands.finished_endRun empty fun strictly letter member done =>
            terminal (restored strictly ⟨letter, member, done⟩)
      · rintro _ rfl
        exact empty
    · simp only [if_neg ended]
      refine ⟨trivial, ?_⟩
      rintro (_ | failed) _ ⟨rfl, terminal⟩
      · exact empty
      · refine Program.wp_bind (p := AgentWorker.getRun run)
          (Program.wp_weaken (wp_getRun (hands.endRun run) run) ?_ ?_)
        · rintro status' _ rfl
          have marked : (if status'.terminal then (hands.endRun run).endRun run
              else hands.endRun run) = hands.endRun run := by
            split
            · simp only [Hands.endRun, List.map_map]
              congr 1
              apply List.map_congr_left
              intro letter _
              simp only [Function.comp_apply]
              split <;> simp_all
            · rfl
          rw [marked]
          refine Program.wp_mono (wp_continue_ended specs run status' empty terminal) ?_
          rintro ⟨⟩ _ rfl
          exact Hands.finished_drop_endRun empty
        · rintro _ rfl
          exact empty
  · rintro _ rfl
    exact empty

structure Clear (strict : Bool) (hands : Hands) : Prop where
  owing : hands.Owing strict []
  handing : hands.handing = []

theorem wp_finishDeadLetters (jobs : List RunJob)
    (owing : hands.Owing strict
      ((jobs.filter fun job => job.status = .deadLetter).map fun job => job.payload.run))
    (empty : hands.handing = []) :
    (finishDeadLetters specs jobs).wp (conduct strict)
      (fun _ hands' => Clear strict hands') (fun hands' => hands'.handing = []) hands := by
  induction jobs generalizing hands with
  | nil => exact ⟨owing, empty⟩
  | cons job rest ih =>
    refine Program.wp_ite (fun dead => ?_) (fun alive => ?_)
    · rw [List.filter_cons_of_pos (by simpa using dead), List.map_cons] at owing
      refine Program.wp_bind (Program.wp_mono (wp_finishDeadLetter specs job.payload.run empty) ?_)
      rintro ⟨⟩ hands' finished
      exact ih (owing.of_finished finished) finished.handing
    · rw [List.filter_cons_of_neg (by simpa using alive)] at owing
      exact ih owing empty

structure Serves (strict : Bool) (jobId : String) (run : RunRef) (executed : Bool)
    (hands : Hands) : Prop where
  clear : Clear strict hands
  serving : hands.serving = some ⟨jobId, run, executed⟩

variable {jobId : String} {run : RunRef} {executed : Bool}

theorem Serves.endRun (serves : Serves strict jobId run executed hands) (other : RunRef) :
    Serves strict jobId run executed (hands.endRun other) where
  clear := ⟨serves.clear.owing.endRun other, serves.clear.handing⟩
  serving := serves.serving

theorem Serves.drop (serves : Serves strict jobId run executed hands) (other : RunRef) :
    Serves strict jobId run executed (hands.drop other) where
  clear := ⟨serves.clear.owing.drop other, serves.clear.handing⟩
  serving := serves.serving

theorem wp_serve (serves : Serves strict jobId run false hands) :
    (serve specs run).wp (conduct strict)
      (fun _ hands' => Serves strict jobId run true hands')
      (fun hands' => ∃ executed, Serves strict jobId run executed hands') hands := by
  refine ⟨trivial, ?_⟩
  rintro (_ | _) _ ⟨rfl, -⟩
  · exact ⟨false, serves⟩
  · refine Program.wp_bind (p := AgentWorker.getRun run)
      (Program.wp_weaken (wp_getRun _ run) ?_ ?_)
    · rintro status hands' same
      have serves' : Serves strict jobId run false hands' := by
        rw [same]
        split
        · exact serves.endRun run
        · exact serves
      refine ⟨trivial, ?_⟩
      rintro ⟨⟩ marked ⟨unchanged, -⟩
      obtain rfl : marked = hands' := unchanged
      refine ⟨⟨jobId, false, serves'.serving⟩, ?_⟩
      rintro (_ | state) hands'' ⟨executed, -⟩
      · obtain rfl : hands'' = marked := executed
        exact ⟨false, serves'⟩
      · have serves'' : Serves strict jobId run true hands'' := by
          subst executed
          refine ⟨⟨serves'.clear.owing, serves'.clear.handing⟩, ?_⟩
          change marked.serving.map _ = _
          rw [serves'.serving]
          rfl
        refine Program.wp_ite (fun _ => ⟨true, serves''⟩) (fun _ => ?_)
        refine Program.wp_bind (p := AgentWorker.getRun run)
          (Program.wp_weaken (wp_getRun hands'' run) ?_ ?_)
        · rintro status' hands₃ same'
          have serves₃ : Serves strict jobId run true hands₃ := by
            rw [same']
            split
            · exact serves''.endRun run
            · exact serves''
          refine Program.wp_weaken
            (wp_continueAfterTerminal specs run status' state serves₃.clear.handing) ?_ ?_
          · rintro ⟨⟩ _ rfl
            split
            · exact serves₃.drop run
            · exact serves₃
          · rintro _ rfl
            exact ⟨true, serves₃.drop run⟩
        · rintro _ rfl
          exact ⟨true, serves''⟩
    · rintro _ rfl
      exact ⟨false, serves⟩

theorem wp_handleError (job : RunJob)
    (serves : Serves strict job.id job.payload.run executed hands) :
    (handleError specs job).wp (conduct strict)
      (fun _ hands' => Clear strict hands') (fun hands' => hands'.handing = []) hands := by
  refine ⟨⟨_, _, serves.serving⟩, ?_⟩
  rintro (_ | rejected) _ ⟨rfl, -⟩
  · exact serves.clear.handing
  · have alive : rejected.status ≠ .deadLetter →
        hands.next (.reject job.id) (some rejected) = hands := by
      intro other
      change Hands.mk _ _ _ = hands
      rw [if_neg other]
    refine Program.wp_ite (fun pending => ?_) (fun _ => ?_)
    · rw [alive (by rw [pending]; simp)]
      refine Program.wp_bind (p := AgentWorker.getRun job.payload.run)
        (Program.wp_weaken (wp_getRun hands job.payload.run) ?_ ?_)
      · rintro status hands' same
        have clear : Clear strict hands' := by
          rw [same]
          split
          · exact (serves.endRun job.payload.run).clear
          · exact serves.clear
        refine Program.wp_ite (fun _ => clear) (fun _ => ?_)
        refine ⟨trivial, ?_⟩
        rintro ⟨⟩ _ ⟨rfl, -⟩
        exact clear
      · rintro _ rfl
        exact serves.clear.handing
    · refine Program.wp_ite (fun dead => ?_) (fun other => ?_)
      · refine Program.wp_mono (wp_finishDeadLetter specs job.payload.run serves.clear.handing) ?_
        rintro ⟨⟩ hands' finished
        have owing : (hands.next (.reject job.id) (some rejected)).Owing strict
            [job.payload.run] := by
          intro letter member
          change letter ∈ (if _ then _ else _) at member
          rw [if_pos dead, serves.serving] at member
          rcases List.mem_append.mp member with before | new
          · rcases serves.clear.owing letter before with done | listed
            · exact Or.inl done
            · cases listed
          · obtain rfl := List.mem_singleton.mp new
            exact Or.inr List.mem_cons_self
        exact ⟨owing.of_finished finished, finished.handing⟩
      · rw [alive other]
        exact serves.clear

theorem wp_acknowledge (job : RunJob) (serves : Serves strict job.id job.payload.run true hands) :
    (acknowledge job).wp (conduct strict)
      (fun _ hands' => Clear strict hands') (fun hands' => hands'.handing = []) hands := by
  refine ⟨⟨_, serves.serving⟩, ?_⟩
  rintro (_ | acked) _ ⟨rfl, -⟩
  · exact serves.clear.handing
  · exact serves.clear

theorem wp_process (job : RunJob) (serves : Serves strict job.id job.payload.run false hands) :
    (process specs job).wp (conduct strict)
      (fun _ hands' => Clear strict hands') (fun hands' => hands'.handing = []) hands := by
  refine Program.wp_bind (Program.wp_attempt (Program.wp_weaken (wp_serve specs serves) ?_ ?_))
  · rintro ⟨⟩ hands' served
    exact wp_acknowledge job served
  · rintro hands' ⟨executed, serves'⟩
    exact wp_handleError specs job serves'

theorem wp_processNext : (processNext specs).wp (conduct strict)
    (fun _ hands' => Clear strict hands') (fun hands' => hands'.handing = []) {} := by
  refine ⟨⟨rfl, rfl⟩, ?_⟩
  rintro reaped _ ⟨rfl, -⟩
  refine Program.wp_bind (p := finishDeadLetters specs reaped)
    (Program.wp_mono (wp_finishDeadLetters specs reaped ?_ rfl) ?_)
  · intro letter member
    obtain ⟨job, listed, rfl⟩ := List.mem_map.mp member
    exact Or.inr (List.mem_map_of_mem listed)
  · rintro ⟨⟩ hands' clear
    refine ⟨trivial, ?_⟩
    rintro (_ | job) _ ⟨rfl, -⟩
    · exact clear
    · exact wp_process specs job ⟨⟨clear.owing, clear.handing⟩, rfl⟩

theorem wp_continueThread_start (run : RunRef) : (AgentWorker.continueThread run).wp (conduct strict)
    (fun _ hands' => Clear strict hands') (fun hands' => hands'.handing = []) {} := by
  refine Program.wp_weaken (wp_continueThread run rfl) ?_ ?_
  · rintro ⟨⟩ _ rfl
    exact ⟨fun _ member => (by cases member), rfl⟩
  · rintro _ rfl
    rfl

end Jobs

end Taroai.Workers
