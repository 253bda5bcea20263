import Taroai.Chat.Wakeups

/-! Each access of each call keeps the thread awake and in order, under the condition on the
accesses; so do the starts and ends of calls and of runs. Without the condition a post that saw
a run and appends after its continuation went by leaves a message that nothing takes up. -/

namespace Taroai.Chat.ThreadSystem

open ChatService ThreadStore

section Cases

variable {s : ThreadSystem} {p : Nat} {rest : ThreadTask (Option MessageDispatch)}

theorem advance_getActiveRun (good : Good s) {continuing : Bool}
    (here : s.calls p = some ⟨.entered continuing, rest⟩)
    (allows : s.store.activeRun = none → s.Alone p Stage.window) :
    Advance s p ((Stage.entered continuing).next .getActiveRun s.store.activeRun) s.store := by
  cases active : s.store.activeRun with
  | none =>
    have alone := allows active
    exact {
      live := good.live
      orderly := good.orderly
      placed := trivial
      others := fun q _ opened held => good.placed q opened held
      window := fun _ => ⟨active, alone⟩
      elsewhere := by
        intro q other opened held inside
        rw [alone q other opened held] at inside
        cases inside
      awake := fun _ _ _ => Or.inl rfl }
  | some run =>
    have outside : ((Stage.entered continuing).next .getActiveRun (some run)).window = false := by
      cases continuing <;> rfl
    exact {
      live := good.live
      orderly := good.orderly
      placed := by cases continuing <;> exact trivial
      others := fun q _ opened held => good.placed q opened held
      window := by
        intro inside
        rw [outside] at inside
        cases inside
      elsewhere := by
        intro q other opened held inside
        exact ⟨(good.vacant q opened held inside).1, outside⟩
      awake := fun _ _ _ => Or.inr (Or.inl (by simp [active])) }

theorem advance_join (good : Good s) (here : s.calls p = some ⟨.busy, rest⟩) {manual : Bool}
    {dispatchStatus : ChatMessageDispatchStatus}
    (joins : dispatchStatus = .queued ∨ dispatchStatus = .steering ∨
      dispatchStatus = .ready ∧ manual = true)
    (allows : s.Allows p .busy (.appendMessage manual dispatchStatus)) :
    Advance s p .closed (s.store.append manual dispatchStatus) where
  live := good.live
  orderly := good.orderly.append manual dispatchStatus
  placed := trivial
  others := by
    intro q other opened held
    have placed := good.placed q opened held
    rcases opened with ⟨stage, later⟩
    cases stage with
    | converting steering =>
      refine ⟨?_, placed.2⟩
      intro message member steered
      rcases mem_append.mp member with stored | rfl
      · exact placed.1 message stored steered
      · simp only at steered
        subst steered
        have apart := allows q other _ held
        cases apart
    | holding message continuing => exact placed.append manual dispatchStatus
    | failing message continuing => exact placed.append manual dispatchStatus
    | refused => exact placed
    | entered _ | busy | free _ | closed => exact trivial
  window := by simp [Stage.window]
  elsewhere := by
    intro q other opened held inside
    exact ⟨(good.vacant q opened held inside).1, rfl⟩
  awake := by
    intro message member dispatchable
    refine Or.inr ?_
    rcases mem_append.mp member with stored | rfl
    · rcases good.expects here stored dispatchable with hopeful | ahead
      · cases hopeful
      · exact ahead
    · rcases joins with rfl | rfl | ⟨rfl, rfl⟩
      · exact allows
      · simp [ChatMessage.dispatchable] at dispatchable
      · simp [ChatMessage.dispatchable] at dispatchable

theorem advance_begin (good : Good s) (here : s.calls p = some ⟨.free false, rest⟩)
    (allows : ∀ message ∈ s.store.messages, message.open? = false) :
    Advance s p (.holding s.store.nextSequence false) (s.store.append false .inflight) :=
  good.within here rfl rfl good.live (good.orderly.append false .inflight)
    (good.orderly.held_append allows) rfl

theorem advance_listSteering (good : Good s) (here : s.calls p = some ⟨.free true, rest⟩) :
    Advance s p (.converting s.store.pendingSteering) s.store := by
  refine good.within here rfl rfl good.live good.orderly ⟨?_, ?_⟩ rfl
  · intro message member steered
    exact List.mem_map.mpr ⟨message, List.mem_filter.mpr ⟨member, by simp [steered]⟩, rfl⟩
  · intro sequence member
    obtain ⟨message, listed, rfl⟩ := List.mem_map.mp member
    obtain ⟨stored, steered⟩ := List.mem_filter.mp listed
    exact good.orderly.waiting message stored (by simp_all [ChatMessage.open?])

theorem advance_requeue (good : Good s) {message : Nat} {steering : List Nat}
    (here : s.calls p = some ⟨.converting (message :: steering), rest⟩) :
    Advance s p (.converting steering) (s.store.setDispatch message .queued) := by
  obtain ⟨listed, above⟩ := good.placed p _ here
  have orderly := good.orderly.updateMessage (f := fun stored =>
    { stored with dispatchStatus := .queued }) (above message List.mem_cons_self)
  refine good.within here rfl rfl good.live orderly ⟨?_, ?_⟩ rfl
  · intro stored member steered
    rcases mem_updateMessage member with ⟨unchanged, other⟩ | ⟨-, before, -, rfl⟩
    · rcases List.mem_cons.mp (listed stored unchanged steered) with same | later
      · exact absurd same other
      · exact later
    · cases steered
  · intro sequence later
    exact above sequence (List.mem_cons_of_mem message later)

theorem advance_claim (good : Good s) (here : s.calls p = some ⟨.converting [], rest⟩)
    (propose : Option Nat) :
    Advance s p
      ((Stage.converting []).next .claimNextQueuedMessage
        (s.store.respond .claimNextQueuedMessage propose).1)
      (s.store.respond .claimNextQueuedMessage propose).2 := by
  obtain ⟨listed, -⟩ := good.placed p _ here
  have steered : ∀ message ∈ s.store.messages, message.dispatchStatus ≠ .steering := by
    intro message member steering
    cases listed message member steering
  cases next : s.store.nextQueued with
  | none =>
    simp only [ThreadStore.respond, next]
    refine good.leaves here rfl good.live good.orderly ?_
    intro message member dispatchable
    have none := List.find?_eq_none.mp (Option.map_eq_none_iff.mp next) message member
    exact absurd dispatchable none
  | some message =>
    simp only [ThreadStore.respond, next]
    exact good.within here rfl rfl good.live
      (good.orderly.updateMessage_of_closed fun stored => by simp [ChatMessage.open?, ChatMessage.dispatchable])
      (good.orderly.held_claimed steered next) rfl

theorem advance_reselect (good : Good s) {message : Nat}
    (here : s.calls p = some ⟨.holding message true, rest⟩) (found : Bool) :
    Advance s p ((Stage.holding message true).next .resolveSelection found) s.store := by
  cases found with
  | true => exact good.still here
  | false => exact good.within here rfl rfl good.live good.orderly (good.placed p _ here) rfl

theorem activeRun_addRun (store : ThreadStore) (message : Nat) :
    (store.addRun (store.createQueuedRun message)).activeRun ≠ none := by
  rw [Ne, activeRun_eq_none]
  intro ended
  have last := ended (store.createQueuedRun message) (List.mem_append_right _ List.mem_cons_self)
  cases last

theorem advance_create (good : Good s) {message : Nat} {continuing : Bool}
    (here : s.calls p = some ⟨.holding message continuing, rest⟩)
    (propose : Option (ThreadRun × Bool)) :
    Advance s p
      ((Stage.holding message continuing).next (.createQueuedThreadRunIfAbsent message)
        (s.store.respond (.createQueuedThreadRunIfAbsent message) propose).1)
      (s.store.respond (.createQueuedThreadRunIfAbsent message) propose).2 := by
  have held := good.placed p _ here
  have ended := (good.vacant p _ here rfl).1
  cases propose with
  | none =>
    simp only [ThreadStore.respond]
    cases continuing <;> exact good.within here rfl rfl good.live good.orderly held rfl
  | some proposed =>
    have leaves : Advance s p .closed (s.store.addRun (s.store.createQueuedRun message)) := by
      refine good.leaves here rfl good.live (good.orderly.addRun held) ?_
      intro _ _ _
      exact Or.inl (activeRun_addRun s.store message)
    simp only [ThreadStore.respond, ended]
    cases continuing <;> exact leaves

theorem advance_giveBack (good : Good s) {message : Nat}
    (here : s.calls p = some ⟨.failing message true, rest⟩) (allows : s.Ahead p) :
    Advance s p .closed (s.store.setDispatch message .queued) := by
  have held := good.placed p _ here
  exact good.leaves here rfl good.live (good.orderly.updateMessage held.above)
    fun _ _ _ => allows

theorem advance_withdraw (good : Good s) {message : Nat}
    (here : s.calls p = some ⟨.failing message false, rest⟩)
    (allows : s.Ahead p ∨ ∀ stored ∈ s.store.messages, stored.dispatchable = false) :
    Advance s p .closed (s.store.delete message) := by
  have held := good.placed p _ here
  refine good.leaves here rfl good.live (good.orderly.delete held.above) ?_
  intro stored member dispatchable
  rcases allows with ahead | none
  · exact ahead
  · rw [none stored (List.mem_filter.mp member).1] at dispatchable
    cases dispatchable

theorem advance_access (good : Good s) {stage : Stage} {c : ThreadCall}
    {next : c.Answer → ThreadTask (Option MessageDispatch)}
    (here : s.calls p = some ⟨stage, .call c next⟩) (legal : Legal stage c)
    (allows : s.Allows p stage c) (propose : c.Answer) :
    Advance s p (stage.next c (s.store.respond c propose).1) (s.store.respond c propose).2 := by
  cases legal with
  | getThread continuing =>
    simp only [ThreadStore.respond, good.live]
    cases continuing <;> exact good.still here
  | selection => exact good.still here
  | getActiveRun continuing => exact advance_getActiveRun good here allows
  | steeringAvailable => exact good.still here
  | join manual dispatchStatus joins => exact advance_join good here joins allows
  | begin => exact advance_begin good here allows
  | listSteering => exact advance_listSteering good here
  | requeue message steering => exact advance_requeue good here
  | claim => exact advance_claim good here propose
  | reselect message => exact advance_reselect good here propose
  | create message continuing => exact advance_create good here propose
  | giveBack message => exact advance_giveBack good here allows
  | withdraw message => exact advance_withdraw good here allows
  | yield message => exact (good.placed p _ here).elim
  | rejoin message dispatchStatus manual => exact (good.placed p _ here).elim

end Cases

section Steps

variable {s t : ThreadSystem}

theorem Good.ends (good : Good s) {p : Nat} {opened : OpenCall}
    (here : s.calls p = some opened) (done : opened.stage.hopeful = false) :
    Good (s.setCall p none) where
  live := good.live
  orderly := good.orderly
  conducted := by
    intro q opened' held
    rw [setCall_calls] at held
    split at held
    · cases held
    · exact good.conducted q opened' held
  placed := by
    intro q opened' held
    rw [setCall_calls] at held
    split at held
    · cases held
    · exact good.placed q opened' held
  vacant := by
    intro q opened' held inside
    rw [setCall_calls] at held
    split at held
    · cases held
    · obtain ⟨ended, alone⟩ := good.vacant q opened' held inside
      refine ⟨ended, fun r other opened'' held' => ?_⟩
      rw [setCall_calls] at held'
      split at held'
      · cases held'
      · exact alone r other opened'' held'
  awake := by
    intro message member dispatchable
    rcases good.awake message member dispatchable with active | due | ⟨q, opened', held, hopeful⟩
    · exact Or.inl active
    · exact Or.inr (Or.inl due)
    · refine Or.inr (Or.inr ⟨q, opened', ?_, hopeful⟩)
      rw [setCall_calls, if_neg]
      · exact held
      · rintro rfl
        rw [here] at held
        obtain rfl := Option.some.inj held
        rw [done] at hopeful
        cases hopeful

theorem good_access (good : Good s) {p : Nat} {propose : (c : ThreadCall) → c.Answer}
    (attentive : s.Attentive (.access p propose)) (moved : s.access p propose = some t) :
    Good t := by
  unfold access at moved
  cases here : s.calls p with
  | none => simp [here] at moved
  | some opened =>
    obtain ⟨stage, rest⟩ := opened
    have conducts := good.conducted p _ here
    cases rest with
    | pure dispatch =>
      simp only [here, Option.some.injEq] at moved
      subst moved
      exact good.ends here conducts
    | raise =>
      simp only [here, Option.some.injEq] at moved
      subst moved
      exact good.ends here conducts
    | call c next =>
      simp only [here, Option.some.injEq] at moved
      subst moved
      have advance := advance_access good here conducts.1 (attentive stage c next here) (propose c)
      exact good.advance advance (conducts.2 _ _ rfl)

theorem Good.starts (good : Good s) {p : Nat} (idle : s.calls p = none) {continuing : Bool}
    {task : ThreadTask (Option MessageDispatch)} (conducts : Conducts task (.entered continuing))
    {due : Nat} (owed : due = s.due ∨ continuing = true) :
    Good { s.setCall p (some ⟨.entered continuing, task⟩) with due := due } where
  live := good.live
  orderly := good.orderly
  conducted := by
    intro q opened held
    rw [setCall_calls] at held
    split at held
    · obtain rfl := Option.some.inj held
      exact conducts
    · exact good.conducted q opened held
  placed := by
    intro q opened held
    rw [setCall_calls] at held
    split at held
    · obtain rfl := Option.some.inj held
      exact trivial
    · exact good.placed q opened held
  vacant := by
    intro q opened held inside
    rw [setCall_calls] at held
    split at held
    · obtain rfl := Option.some.inj held
      cases inside
    · obtain ⟨ended, alone⟩ := good.vacant q opened held inside
      refine ⟨ended, fun r other opened' held' => ?_⟩
      rw [setCall_calls] at held'
      split at held'
      · obtain rfl := Option.some.inj held'
        rfl
      · exact alone r other opened' held'
  awake := by
    intro message member dispatchable
    have started : (s.setCall p (some ⟨.entered continuing, task⟩)).calls p =
        some ⟨.entered continuing, task⟩ := by rw [setCall_calls, if_pos rfl]
    rcases owed with rfl | rfl
    · rcases good.awake message member dispatchable with active | waits | ⟨q, opened, held, hopeful⟩
      · exact Or.inl active
      · exact Or.inr (Or.inl waits)
      · refine Or.inr (Or.inr ⟨q, opened, ?_, hopeful⟩)
        rw [setCall_calls, if_neg]
        · exact held
        · rintro rfl
          rw [idle] at held
          cases held
    · exact Or.inr (Or.inr ⟨p, _, started, rfl⟩)

theorem good_runStatus (good : Good s) {runId : Nat} {status : RunStatus}
    (moved : step s (.runStatus runId status) = some t) : Good t := by
  simp only [step] at moved
  split at moved
  · next run found =>
    split at moved
    · cases moved
    · next running =>
      obtain rfl := Option.some.inj moved
      have stored := List.mem_of_find?_eq_some found
      have active : s.store.activeRun ≠ none := by
        rw [Ne, activeRun_eq_none]
        intro ended
        exact running (ended run stored)
      have outside : ∀ q opened, s.calls q = some opened → opened.stage.window = false := by
        intro q opened held
        by_contra inside
        exact active (good.vacant q opened held (by simpa using inside)).1
      exact {
        live := good.live
        orderly := good.orderly.setRunStatus runId status
        conducted := good.conducted
        placed := by
          intro q opened held
          have apart := outside q opened held
          have placed := good.placed q opened held
          cases at_ : opened.stage <;> simp_all [Placed, Stage.window]
        vacant := by
          intro q opened held inside
          rw [outside q opened held] at inside
          cases inside
        awake := by
          intro message member dispatchable
          by_cases terminal : status.terminal = true
          · exact Or.inr (Or.inl (by simp [terminal]))
          · refine Or.inl ?_
            rw [Ne, activeRun_eq_none]
            intro ended
            have key : run.id = runId := by simpa using List.find?_some found
            have last := ended { run with status := status }
              (List.mem_map.mpr ⟨run, stored, by rw [if_pos key]⟩)
            exact terminal last }
  · cases moved

theorem good_steeringApplied (good : Good s) {message : Nat}
    (moved : step s (.steeringApplied message) = some t) : Good t := by
  simp only [step] at moved
  split at moved
  · obtain rfl := Option.some.inj moved
    have closed : ∀ stored : ChatMessage,
        ({ stored with dispatchStatus := .completed } : ChatMessage).open? = false := by
      intro stored
      simp [ChatMessage.open?, ChatMessage.dispatchable]
    exact {
      live := good.live
      orderly := good.orderly.updateMessage_of_closed closed
      conducted := good.conducted
      placed := by
        intro q opened held
        have placed := good.placed q opened held
        rcases opened with ⟨stage, rest⟩
        cases stage with
        | converting steering =>
          refine ⟨?_, placed.2⟩
          intro stored member steered
          rcases mem_updateMessage member with ⟨unchanged, -⟩ | ⟨-, before, -, rfl⟩
          · exact placed.1 stored unchanged steered
          · cases steered
        | holding held continuing => exact Held.updateMessage_of_closed placed closed
        | failing held continuing => exact Held.updateMessage_of_closed placed closed
        | refused => exact placed
        | entered _ | busy | free _ | closed => exact trivial
      vacant := good.vacant
      awake := by
        intro stored member dispatchable
        rcases mem_updateMessage member with ⟨unchanged, -⟩ | ⟨-, before, -, rfl⟩
        · exact good.awake stored unchanged dispatchable
        · simp [ChatMessage.dispatchable] at dispatchable }
  · cases moved

theorem good_step {label : ThreadLabel} (good : Good s) (attentive : s.Attentive label)
    (moved : step s label = some t) : Good t := by
  cases label with
  | postMessage p deliveryMode =>
    simp only [step] at moved
    split at moved
    · next idle =>
      obtain rfl := Option.some.inj moved
      exact good.starts idle (conducts_postMessage deliveryMode) (Or.inl rfl)
    · cases moved
  | continueThread p owed =>
    simp only [step] at moved
    split at moved
    · next idle =>
      split at moved
      · cases moved
      · obtain rfl := Option.some.inj moved
        exact good.starts idle conducts_continueThread (Or.inr rfl)
    · cases moved
  | access p propose => exact good_access good attentive moved
  | runStatus runId status => exact good_runStatus good moved
  | steeringApplied message => exact good_steeringApplied good moved

theorem Good.awake_of_good (good : Good s) : Awake s where
  served := by
    intro quiet message member
    by_contra waits
    rcases good.awake message member (by simpa using waits) with active | due | ⟨q, opened, held, -⟩
    · exact active quiet.ended
    · have := quiet.continued
      omega
    · rw [quiet.returned q] at held
      cases held
  ordered := good.orderly.dispatched

end Steps

/-- Every attentive run of a new thread keeps it awake and its dispatches in order. -/
theorem awake_run (schedule : List ThreadLabel) (t : ThreadSystem)
    (attentive : Machine.Conforms step Attentive start schedule)
    (ran : Machine.run step start schedule = some t) : Awake t :=
  (Machine.invariant_conforms (fun _ _ _ good here moved => good_step good here moved) good_start
    attentive ran).awake_of_good

def granted : (c : ThreadCall) → c.Answer
  | .getThread | .resolveSelection => true
  | .steeringAvailable => false
  | .getActiveRun | .claimNextQueuedMessage => none
  | .appendMessage _ _ => 0
  | .listPendingSteering => []
  | .createQueuedThreadRunIfAbsent _ => some (⟨0, .queued, 0⟩, true)
  | .updateMessage _ _ | .updateKind _ _ _ | .deleteMessage _ => ()

def accesses (process count : Nat) : List ThreadLabel :=
  List.replicate count (.access process granted)

def posted : List ThreadLabel := .postMessage 0 .auto :: accesses 0 6

/-- A second post sees the run; the run ends and its worker finds nothing to continue with. -/
def overtaken : List ThreadLabel :=
  posted ++ .postMessage 0 .auto :: accesses 0 3 ++ .runStatus 0 .succeeded ::
    .continueThread 1 true :: accesses 1 5

theorem awake_run_posted : Awake (Machine.final step start posted rfl) := by
  refine awake_run posted _ ?_ (Machine.run_final _ _ _ rfl)
  refine Machine.Along.cons rfl trivial (.cons rfl ?_ (.cons rfl ?_ (.cons rfl ?_ (.cons rfl ?_
    (.cons rfl ?_ (.cons rfl ?_ trivial))))))
  · rintro stage c next held
    cases held
    exact trivial
  · rintro stage c next held
    cases held
    exact trivial
  · rintro stage c next held
    cases held
    rintro - (_ | q) apart opened other
    · exact absurd rfl apart
    · cases other
  · rintro stage c next held
    cases held
    rintro message ⟨⟩
  · rintro stage c next held
    cases held
    exact trivial
  · rintro stage c next held
    cases held

/-- The second message is appended too late. -/
theorem overtaken_not_awake :
    ¬ ∀ (schedule : List ThreadLabel) (t : ThreadSystem),
      Machine.run step start schedule = some t → Awake t := by
  intro always
  have awake := always (overtaken ++ accesses 0 3) _ (Machine.run_final _ _ _ rfl)
  have quiet : Quiet (Machine.final step start (overtaken ++ accesses 0 3) rfl) :=
    ⟨rfl, by rintro (_ | _ | process) <;> rfl, rfl⟩
  exact absurd (awake.served quiet ⟨2, false, .queued⟩ (by decide)) (by decide)

end Taroai.Chat.ThreadSystem
