import Taroai.Lib.JsonReading
import Taroai.Agent.System

/-! The keys and steps of the actions of a run. A decision comes with the state in which the node
takes it, so what happened before (repairs, new attempts, restarts from a checkpoint) is the choice
of the run; the only thing between two decisions is what the store keeps. -/

namespace Taroai.Agent.DecisionKeys

open Taroai.Json (append_unique digits_chars digits_injective intChar)

/-- An action decision at the creation of its action. A retry is for the step of the action that
it retries. -/
structure Decided where
  state : AgentRuntimeState
  cycleId : String
  actionId : String
  decision : AgentDecision
  step : Nat

namespace Decided

variable (d e : Decided)

def attempt : Nat := d.state.runtimeMetadata.executionAttempt

def action : AgentAction where
  id := d.actionId
  cycleId := d.cycleId
  actionKey := Nodes.actionKeyOf d.state d.decision
  decision := d.decision

def stepId : String := (decisionStep d.action).id

def ownKey : Option String := d.decision.actionKey.filter fun key => key ≠ ""

def cycleKey : String := s!"cycle:{d.state.iteration}:action"

def upToColon (text : List Char) : List Char := text.takeWhile fun c => c ≠ ':'

def stepText : Option String :=
  d.decision.actionKey.bind fun key =>
    if startsWith key "planned:" then some (String.ofList (upToColon (key.toList.drop 8)))
    else if startsWith key "playbook:" then some (String.ofList (upToColon (key.toList.drop 9)))
    else none

end Decided

/-- No decision of an attempt has the key of another, or the text that stands for the key of a
decision without one. -/
def KeysApart (d e : Decided) : Prop :=
  d.attempt = e.attempt →
    match d.ownKey, e.ownKey with
    | some key, some other => key ≠ other
    | some key, none => key ≠ e.cycleKey
    | none, some other => other ≠ d.cycleKey
    | none, none => True

/-- The texts of two steps differ, and neither is the id of an action of its own step. -/
def StepsApart (d e : Decided) : Prop :=
  d.step ≠ e.step →
    match d.stepText, e.stepText with
    | some text, some other => text ≠ other
    | some text, none => text ≠ e.actionId
    | none, some other => other ≠ d.actionId
    | none, none => True

def Apart (d e : Decided) : Prop := KeysApart d e ∧ StepsApart d e

/-- The store, the decisions that came to the creation of their action, and whether one of the
creations raised. -/
structure Decisions where
  store : RunStore
  decided : List Decided := []
  raised : Bool := false

inductive Event where
  | decide (decided : Decided)
  | call (call : Call) (proposed : call.Answer)

namespace Decisions

def init : Decisions where
  store := { runStatus := .created }

def create (s : Decisions) (d : Decided) : Decisions :=
  match s.store.respond (.createAction d.action) true with
  | some (true, store) => { s with store, decided := s.decided ++ [d] }
  | _ => { s with decided := s.decided ++ [d], raised := true }

/-- A cycle with the iteration of another is refused before an action is made. Any other call is
one of the other nodes, of a user or of another execution. -/
def step (s : Decisions) : Event → Option Decisions
  | .decide d =>
    match s.store.respond (.createCycle d.cycleId d.state.iteration) true with
    | some (true, store) => some ({ s with store }.create d)
    | _ => some s
  | .call (.createAction _) _ => none
  | .call c proposed => (s.store.respond c proposed).map fun answer => { s with store := answer.2 }

end Decisions

theorem followDecision_action (run : Run) {state : AgentRuntimeState} (cycleId : String)
    {decision : AgentDecision} (kind : decision.kind = .action)
    (unfailed : state.graphFailureCode = none)
    (plain : given decision.skillId = false ∨ decision.planned = true) :
    Nodes.followDecision run state cycleId decision =
      Nodes.proposeAction state cycleId decision := by
  have no_skill : ¬(decision.kind = .action ∧ given decision.skillId = true ∧
      decision.planned = false) := by
    rintro ⟨-, skill, unplanned⟩
    obtain skill' | planned := plain
    · rw [skill'] at skill
      cases skill
    · rw [planned] at unplanned
      cases unplanned
  rw [Nodes.followDecision, if_neg (by simp [unfailed]), if_neg no_skill, Nodes.dispatch, kind]

def Taken (store : RunStore) (action : AgentAction) : Prop :=
  (store.actions.get? action.id).isSome = true ∨
    store.actions.entries.any (fun stored => stored.actionKey = action.actionKey) = true

theorem respond_taken {store : RunStore} {action : AgentAction} (taken : Taken store action)
    (answer : Bool) : store.respond (.createAction action) answer = some (false, store) :=
  if_pos taken

theorem respond_free {store : RunStore} {action : AgentAction} (free : ¬Taken store action)
    (answer : Bool) : store.respond (.createAction action) answer =
      some (true, { store with actions := store.actions.put action }) :=
  if_neg free

theorem create_taken {s : Decisions} {d : Decided} (taken : Taken s.store d.action) :
    s.create d = { s with decided := s.decided ++ [d], raised := true } := by
  rw [Decisions.create, respond_taken taken]

theorem create_free {s : Decisions} {d : Decided} (free : ¬Taken s.store d.action) :
    s.create d =
      { s with
        store := { s.store with actions := s.store.actions.put d.action }
        decided := s.decided ++ [d] } := by
  rw [Decisions.create, respond_free free]

def proposed (d : Decided) : AgentRuntimeState :=
  Nodes.route
    { d.state with
      currentCycleId := some d.cycleId
      currentActionId := some d.actionId
      currentStepId := some d.stepId }
    (.to .policy)

theorem proposeAction_runIn (d : Decided) (s : Decisions) (propose : Environment)
    (ids : propose (.ask .newId) = d.actionId) (tool : given d.decision.toolName = true)
    (unraised : s.raised = false) :
    (Nodes.proposeAction { d.state with currentCycleId := some d.cycleId } d.cycleId
        d.decision).runIn RunStore.respond propose s.store =
      some (if (s.create d).raised then none else some (proposed d), (s.create d).store) := by
  have asked : ∀ answer, s.store.respond (.ask .newId) answer = some (answer, s.store) :=
    fun _ => rfl
  rw [Nodes.proposeAction, if_pos tool]
  simp only [ask, call, Program.perform_bind, Program.runIn, asked, Option.bind_some, ids]
  change Option.bind (s.store.respond (.createAction d.action) (propose (.createAction d.action)))
    _ = _
  by_cases taken : Taken s.store d.action
  · rw [create_taken taken, respond_taken taken]
    rfl
  · rw [create_free taken, respond_free taken]
    simp only [unraised]
    rfl

/-- The node makes the calls of the step. The preparation of a skill, which would come between
the two, makes other calls. -/
theorem startCycle_runIn (run : Run) (d : Decided) (propose : Environment) (store : RunStore)
    (ids : propose (.ask .newId) = d.actionId) (kind : d.decision.kind = .action)
    (tool : given d.decision.toolName = true) (unfailed : d.state.graphFailureCode = none)
    (plain : given d.decision.skillId = false ∨ d.decision.planned = true) :
    (Nodes.startCycle run d.state d.cycleId d.decision).runIn RunStore.respond propose store =
      if d.state.iteration ∈ store.cycles then some (none, store)
      else
        let made : Decisions := { store := { store with cycles := d.state.iteration :: store.cycles } }
        some (if (made.create d).raised then none else some (proposed d), (made.create d).store) := by
  simp only [Nodes.startCycle, call, Program.perform_bind, Program.runIn, RunStore.respond]
  by_cases known : d.state.iteration ∈ store.cycles
  · rw [if_pos known, if_pos known]
    rfl
  · rw [if_neg known, if_neg known, Option.bind_some]
    dsimp only
    rw [if_pos rfl, followDecision_action run d.cycleId kind (by exact unfailed) plain]
    exact proposeAction_runIn d { store := _ } propose ids tool rfl

theorem numbered_inj {a b : Nat} {k l : List Char}
    (same : a.repr.toList ++ ':' :: k = b.repr.toList ++ ':' :: l) : a = b ∧ k = l := by
  have stops : ∀ rest : List Char, ∀ c ∈ (':' :: rest).head?, intChar c = false := by
    rintro rest c ⟨⟩
    decide
  obtain ⟨digits, rest⟩ := append_unique (digits_chars a) (digits_chars b) (stops k) (stops l) same
  exact ⟨digits_injective digits, (List.cons.inj rest).2⟩

theorem attemptKey_inj {a b : Nat} {k l : String} (same : s!"attempt:{a}:{k}" = s!"attempt:{b}:{l}") :
    a = b ∧ k = l := by
  have chars := congrArg String.toList same
  simp only [String.toList_append, List.append_assoc] at chars
  obtain ⟨attempts, keys⟩ := numbered_inj (List.append_cancel_left chars)
  exact ⟨attempts, String.toList_inj.mp keys⟩

theorem cycleKey_inj {i j : Nat} (same : s!"cycle:{i}:action" = s!"cycle:{j}:action") : i = j := by
  have chars := congrArg String.toList same
  simp only [String.toList_append, List.append_assoc] at chars
  exact (numbered_inj (List.append_cancel_left chars)).1

theorem orElseText_eq (text : Option String) (default : String) :
    orElseText text default = (text.filter fun t => t ≠ "").getD default := by
  cases text with
  | none => rfl
  | some t =>
    by_cases empty : t = ""
    · simp [orElseText, Option.filter, empty]
    · simp [orElseText, Option.filter, empty]

theorem actionKey_eq (d : Decided) :
    d.action.actionKey = s!"attempt:{d.attempt}:{d.ownKey.getD d.cycleKey}" := by
  rw [Decided.action, Nodes.actionKeyOf, orElseText_eq]
  rfl

theorem keysApart_iff {d e : Decided} (iterations : d.state.iteration ≠ e.state.iteration) :
    d.action.actionKey ≠ e.action.actionKey ↔ KeysApart d e := by
  have cycles : d.cycleKey ≠ e.cycleKey := fun same => iterations (cycleKey_inj same)
  have texts : KeysApart d e ↔
      (d.attempt = e.attempt → d.ownKey.getD d.cycleKey ≠ e.ownKey.getD e.cycleKey) := by
    unfold KeysApart
    cases d.ownKey with
    | none =>
      cases e.ownKey with
      | none => simp [cycles]
      | some other => simp [ne_comm]
    | some key => cases e.ownKey <;> simp
  rw [texts, actionKey_eq, actionKey_eq]
  constructor
  · intro differ attempts same
    rw [attempts, same] at differ
    exact differ rfl
  · intro differ same
    obtain ⟨attempts, keys⟩ := attemptKey_inj same
    exact differ attempts keys

theorem splitAt_cons_ne {c : Char} (other : c ≠ ':') (rest : List Char) :
    (splitAt ':' (c :: rest)).getD 0 [] = c :: (splitAt ':' rest).getD 0 [] := by
  rw [splitAt, if_neg other]
  cases splitAt ':' rest <;> rfl

theorem head_splitAt (text : List Char) :
    (splitAt ':' text).getD 0 [] = Decided.upToColon text := by
  induction text with
  | nil => rfl
  | cons c rest ih =>
    rw [Decided.upToColon, List.takeWhile_cons]
    by_cases colon : c = ':'
    · simp [splitAt, colon]
    · rw [splitAt_cons_ne colon, ih]
      simp [colon, Decided.upToColon]

theorem segment_of_start {key start : String} {front rest : List Char}
    (cut : splitAt ':' (start.toList ++ rest) = front :: splitAt ':' rest)
    (text : key.toList = start.toList ++ rest) :
    (keySegments key).getD 1 "" =
      String.ofList (Decided.upToColon (key.toList.drop start.length)) := by
  have length : start.length = start.toList.length := String.length_toList.symm
  rw [keySegments, text, cut, length, List.drop_left, ← head_splitAt, List.map_cons,
    List.getD_cons_succ]
  cases splitAt ':' rest <;> rfl

theorem decisionStep_keyed {action : AgentAction}
    (keyed : (action.decision.planned || action.decision.playbook) = true) :
    (decisionStep action).id = (keySegments (action.decision.actionKey.getD "")).getD 1 "" :=
  if_pos keyed

theorem decisionStep_own {action : AgentAction}
    (own : (action.decision.planned || action.decision.playbook) = false) :
    (decisionStep action).id = action.id :=
  if_neg (by rw [own]; decide)

theorem stepId_eq (d : Decided) : d.stepId = d.stepText.getD d.actionId := by
  have same : d.action.decision = d.decision := rfl
  unfold Decided.stepId Decided.stepText
  cases key : d.decision.actionKey with
  | none =>
    rw [decisionStep_own (by simp [AgentDecision.planned, AgentDecision.playbook, same, key])]
    rfl
  | some key' =>
    have plan : d.action.decision.planned = startsWith key' "planned:" := by
      simp [AgentDecision.planned, same, key]
    have book : d.action.decision.playbook = startsWith key' "playbook:" := by
      simp [AgentDecision.playbook, same, key]
    rw [Option.bind_some]
    by_cases planned : startsWith key' "planned:" = true
    · obtain ⟨rest, text⟩ := List.isPrefixOf_iff_prefix.mp planned
      rw [decisionStep_keyed (by rw [plan, planned, Bool.true_or]), if_pos planned, same, key]
      have cut : splitAt ':' ("planned:".toList ++ rest) = "planned".toList :: splitAt ':' rest := by
        simp [splitAt]
      exact segment_of_start cut text.symm
    · rw [if_neg planned]
      rw [Bool.not_eq_true] at planned
      by_cases playbook : startsWith key' "playbook:" = true
      · obtain ⟨rest, text⟩ := List.isPrefixOf_iff_prefix.mp playbook
        rw [decisionStep_keyed (by rw [book, playbook, Bool.or_true]), if_pos playbook, same, key]
        have cut : splitAt ':' ("playbook:".toList ++ rest) =
            "playbook".toList :: splitAt ':' rest := by
          simp [splitAt]
        exact segment_of_start cut text.symm
      · rw [if_neg playbook]
        rw [Bool.not_eq_true] at playbook
        rw [decisionStep_own (by rw [plan, book, planned, playbook, Bool.false_or])]
        rfl

theorem stepsApart_iff {d e : Decided} (ids : d.actionId ≠ e.actionId) :
    (d.step ≠ e.step → d.stepId ≠ e.stepId) ↔ StepsApart d e := by
  rw [stepId_eq, stepId_eq]
  unfold StepsApart
  cases d.stepText with
  | none =>
    cases e.stepText with
    | none => simp [ids]
    | some other => simp [ne_comm]
  | some text => cases e.stepText <;> simp

def keysOf (store : RunStore) : List (String × String) :=
  store.actions.entries.map fun action => (action.id, action.actionKey)

theorem keysOf_update (store : RunStore) (actionId : String) {f : AgentAction → AgentAction}
    (keeps : ∀ action, (f action).id = action.id)
    (keys : ∀ action, (f action).actionKey = action.actionKey) :
    keysOf (store.update actionId f keeps) = keysOf store := by
  unfold keysOf RunStore.update Table.map
  rw [List.map_map]
  refine List.map_congr_left fun action _ => ?_
  rw [Function.comp_apply]
  split
  · rw [keeps, keys]
  · rfl

theorem keysOf_expire (store : RunStore) (ids : List String) :
    keysOf (store.expire ids) = keysOf store := by
  unfold keysOf RunStore.expire Table.map
  rw [List.map_map]
  refine List.map_congr_left fun action _ => ?_
  rw [Function.comp_apply]
  split
  · rw [AgentAction.expired]
    split <;> rfl
  · rfl

/-- Every call but the creation of an action leaves the keys of the actions alone, and none
removes a cycle. -/
theorem respond_keeps {store store' : RunStore} {c : Call} {proposed answer : c.Answer}
    (other : ∀ action, c ≠ .createAction action)
    (responded : store.respond c proposed = some (answer, store')) :
    keysOf store' = keysOf store ∧ ∀ iteration ∈ store.cycles, iteration ∈ store'.cycles := by
  cases c with
  | createAction action => exact absurd rfl (other action)
  | getRun | isCancelled | updateRunStatus _ | loadState | saveState _ | latestCheckpoint
  | getAction _ | renewLease _ _ | updateApprovalExecution _ _ | ask _ =>
    cases responded
    exact ⟨rfl, fun _ known => known⟩
  | createCheckpoint sequence statePayload =>
    simp only [RunStore.respond] at responded
    split at responded <;> cases responded <;> exact ⟨rfl, fun _ known => known⟩
  | createCycle cycleId iteration =>
    simp only [RunStore.respond] at responded
    split at responded
    · cases responded
      exact ⟨rfl, fun _ known => known⟩
    · cases responded
      exact ⟨rfl, fun _ known => List.mem_cons_of_mem _ known⟩
  | recoverExpiredActions =>
    cases responded
    exact ⟨keysOf_expire store _, fun _ known => known⟩
  | listActions =>
    simp only [RunStore.respond] at responded
    split at responded <;> cases responded
    exact ⟨rfl, fun _ known => known⟩
  | claimAction actionId =>
    simp only [RunStore.respond] at responded
    split at responded
    · split at responded <;> cases responded
      · exact ⟨keysOf_update store actionId _ fun _ => rfl, fun _ known => known⟩
      · exact ⟨rfl, fun _ known => known⟩
    · cases responded
      exact ⟨rfl, fun _ known => known⟩
  | commitObservation actionId generation observation statePayload =>
    simp only [RunStore.respond] at responded
    split at responded
    · split at responded <;> cases responded
      · exact ⟨keysOf_update (f := fun action => action.committed observation) store actionId
          (fun _ => rfl) fun _ => rfl, fun _ known => known⟩
      · exact ⟨rfl, fun _ known => known⟩
    · cases responded
      exact ⟨rfl, fun _ known => known⟩
  | cancelAction actionId =>
    cases responded
    refine ⟨keysOf_update store actionId _ fun action => ?_, fun _ known => known⟩
    rw [AgentAction.cancelled]
    split <;> rfl
  | pauseForReconnect actionId connectorId =>
    simp only [RunStore.respond] at responded
    split at responded
    · split at responded <;> cases responded
      · exact ⟨keysOf_update store actionId _ fun _ => rfl, fun _ known => known⟩
      · exact ⟨rfl, fun _ known => known⟩
    · cases responded
      exact ⟨rfl, fun _ known => known⟩

section
variable {s s' : Decisions} {d : Decided}

structure Kept (s : Decisions) : Prop where
  cycles : ∀ d ∈ s.decided, d.state.iteration ∈ s.store.cycles
  iterations : (s.decided.map fun d => d.state.iteration).Nodup
  stored : ∀ pair ∈ keysOf s.store, ∃ d ∈ s.decided, (d.actionId, d.action.actionKey) = pair
  unraised : (s.decided.map Decided.actionId).Nodup →
    (s.decided.map fun d => d.action.actionKey).Nodup → s.raised = false

theorem kept_init : Kept Decisions.init where
  cycles _ none := nomatch none
  iterations := List.nodup_nil
  stored _ none := nomatch none
  unraised _ _ := rfl

theorem mem_keysOf_of_taken {store : RunStore} {action : AgentAction} (taken : Taken store action) :
    ∃ pair ∈ keysOf store, pair.1 = action.id ∨ pair.2 = action.actionKey := by
  obtain known | key := taken
  · obtain ⟨stored, found⟩ := Option.isSome_iff_exists.mp known
    have named : stored.id = action.id := Table.key_of_get? found
    exact ⟨(stored.id, stored.actionKey), List.mem_map_of_mem (Table.mem_of_get? found), .inl named⟩
  · obtain ⟨stored, member, same⟩ := List.any_eq_true.mp key
    exact ⟨(stored.id, stored.actionKey), List.mem_map_of_mem member, .inr (by simpa using same)⟩

theorem keysOf_put {store : RunStore} {action : AgentAction} (free : ¬Taken store action) :
    keysOf { store with actions := store.actions.put action } =
      keysOf store ++ [(action.id, action.actionKey)] := by
  have absent : store.actions.get? action.id = none := by
    rw [← Option.not_isSome_iff_eq_none]
    exact fun known => free (.inl known)
  unfold keysOf
  rw [Table.entries_put_new absent, List.map_append]
  rfl

theorem Kept.create (kept : Kept s) (known : d.state.iteration ∈ s.store.cycles)
    (fresh : ∀ e ∈ s.decided, e.state.iteration ≠ d.state.iteration) : Kept (s.create d) := by
  have nodup : ((s.decided ++ [d]).map fun d => d.state.iteration).Nodup := by
    rw [List.map_append, List.nodup_append]
    refine ⟨kept.iterations, by simp, ?_⟩
    intro i among j last
    obtain ⟨e, member, rfl⟩ := List.mem_map.mp among
    rw [List.mem_singleton.mp last]
    exact fresh e member
  have cycles : ∀ e ∈ s.decided ++ [d], e.state.iteration ∈ s.store.cycles :=
    List.forall_mem_append.mpr ⟨kept.cycles, by simpa using known⟩
  by_cases taken : Taken s.store d.action
  · rw [create_taken taken]
    refine ⟨cycles, nodup, fun pair among => ?_, fun ids keys => ?_⟩
    · obtain ⟨e, member, same⟩ := kept.stored pair among
      exact ⟨e, List.mem_append_left _ member, same⟩
    · obtain ⟨pair, among, same⟩ := mem_keysOf_of_taken taken
      obtain ⟨e, member, rfl⟩ := kept.stored pair among
      rw [List.map_append, List.nodup_append] at ids keys
      obtain id | key := same
      · exact absurd id (ids.2.2 _ (List.mem_map_of_mem member) _ (by simp; rfl))
      · exact absurd key (keys.2.2 _ (List.mem_map.mpr ⟨e, member, rfl⟩) _ (by simp))
  · rw [create_free taken]
    refine ⟨cycles, nodup, fun pair among => ?_, fun ids keys => ?_⟩
    · rw [keysOf_put taken] at among
      obtain earlier | last := List.mem_append.mp among
      · obtain ⟨e, member, same⟩ := kept.stored pair earlier
        exact ⟨e, List.mem_append_left _ member, same⟩
      · exact ⟨d, by simp, (List.mem_singleton.mp last).symm⟩
    · rw [List.map_append, List.nodup_append] at ids keys
      exact kept.unraised ids.1 keys.1

theorem step_call {c : Call} {proposed : c.Answer} (other : ∀ action, c ≠ .createAction action) :
    s.step (.call c proposed) =
      (s.store.respond c proposed).map fun answer => { s with store := answer.2 } := by
  cases c with
  | createAction action => exact absurd rfl (other action)
  | _ => rfl

theorem kept_step {event : Event} (kept : Kept s) (moved : s.step event = some s') : Kept s' := by
  cases event with
  | decide d =>
    simp only [Decisions.step, RunStore.respond] at moved
    by_cases known : d.state.iteration ∈ s.store.cycles
    · rw [if_pos known] at moved
      obtain rfl := Option.some.inj moved
      exact kept
    · rw [if_neg known] at moved
      obtain rfl := Option.some.inj moved
      refine Kept.create ?_ List.mem_cons_self ?_
      · exact ⟨fun e member => List.mem_cons_of_mem _ (kept.cycles e member), kept.iterations,
          kept.stored, kept.unraised⟩
      · rintro e member same
        exact known (same ▸ kept.cycles e member)
  | call c proposed =>
    have other : ∀ action, c ≠ .createAction action := by
      rintro action rfl
      cases moved
    rw [step_call other] at moved
    obtain ⟨⟨answer, store⟩, responded, rfl⟩ := Option.map_eq_some_iff.mp moved
    obtain ⟨keys, cycles⟩ := respond_keeps other responded
    exact ⟨fun e member => cycles _ (kept.cycles e member), kept.iterations,
      fun pair among => kept.stored pair (keys ▸ among), kept.unraised⟩

/-- No creation raised, the keys are different, and the steps of actions for different steps have
different ids. -/
structure Separate (s : Decisions) : Prop where
  unraised : s.raised = false
  keys : (s.decided.map fun d => d.action.actionKey).Nodup
  steps : s.decided.Pairwise fun d e => d.step ≠ e.step → d.stepId ≠ e.stepId

theorem pairwise_congr {α : Type} {R P Q : α → α → Prop} {l : List α} (related : l.Pairwise R)
    (same : ∀ a b, R a b → (P a b ↔ Q a b)) : l.Pairwise P ↔ l.Pairwise Q :=
  ⟨fun each => (related.and each).imp fun both => (same _ _ both.1).mp both.2,
    fun each => (related.and each).imp fun both => (same _ _ both.1).mpr both.2⟩

theorem Kept.separate_iff (kept : Kept s) (fresh : (s.decided.map Decided.actionId).Nodup) :
    Separate s ↔ s.decided.Pairwise Apart := by
  have iterations := List.pairwise_map.mp kept.iterations
  have keys : (s.decided.map fun d => d.action.actionKey).Nodup ↔ s.decided.Pairwise KeysApart :=
    List.pairwise_map.trans (pairwise_congr iterations fun d e differ => keysApart_iff differ)
  have steps : (s.decided.Pairwise fun d e => d.step ≠ e.step → d.stepId ≠ e.stepId) ↔
      s.decided.Pairwise StepsApart :=
    pairwise_congr (List.pairwise_map.mp fresh) fun d e differ => stepsApart_iff differ
  constructor
  · intro separate
    exact (keys.mp separate.keys).and (steps.mp separate.steps)
  · intro apart
    have distinct := keys.mpr (apart.imp And.left)
    exact ⟨kept.unraised fresh distinct, distinct, steps.mpr (apart.imp And.right)⟩

/-- Over every run whose actions have ids of their own: the creations all succeed, under different
keys, and different steps stay apart, exactly when the decisions are apart. -/
theorem separate_iff_apart (events : List Event) (s : Decisions)
    (reached : Machine.run Decisions.step .init events = some s)
    (fresh : (s.decided.map Decided.actionId).Nodup) :
    Separate s ↔ s.decided.Pairwise Apart :=
  Kept.separate_iff (Machine.invariant_of_step (fun _ _ _ kept moved => kept_step kept moved)
    kept_init reached) fresh

end

def stateAt (iteration : Nat) : AgentRuntimeState :=
  { status := .running, maxIterations := 10, maxRepairs := 2, iteration }

def search (actionKey : Option String) : AgentDecision :=
  { kind := .action, actionKey, toolName := some "web.search" }

def first (actionKey : Option String) : Decided where
  state := stateAt 1
  cycleId := "cycle_1"
  actionId := "action_1"
  decision := search actionKey
  step := 1

def second (actionKey : Option String) : Decided where
  state := stateAt 2
  cycleId := "cycle_2"
  actionId := "action_2"
  decision := search actionKey
  step := 2

def both (key other : Option String) : List Event := [.decide (first key), .decide (second other)]

theorem two_searches_separate :
    Separate (Machine.final Decisions.step .init (both (some "call_1") (some "call_2")) rfl) :=
  (separate_iff_apart _ _ (Machine.run_final ..) (by decide +kernel)).mpr (by
    have decided : (Machine.final Decisions.step .init
        (both (some "call_1") (some "call_2")) rfl).decided =
          [first (some "call_1"), second (some "call_2")] := rfl
    have first_own : (first (some "call_1")).stepText = none := by decide +kernel
    have second_own : (second (some "call_2")).stepText = none := by decide +kernel
    have apart : Apart (first (some "call_1")) (second (some "call_2")) := by
      refine ⟨fun _ => by simp [Decided.ownKey, first, second, search, Option.filter], fun _ => ?_⟩
      rw [first_own, second_own]
      trivial
    rw [decided]
    simpa using apart)

/-- A provider that uses an id again: the second creation raises. Two keys that begin like those
of one step of a plan: the actions share the step. -/
theorem reused_id_raises :
    (Machine.final Decisions.step .init (both (some "call_1") (some "call_1")) rfl).raised = true ∧
      (first (some "planned:a:1")).stepId = (second (some "planned:a:2")).stepId := by
  decide +kernel

end Taroai.Agent.DecisionKeys
