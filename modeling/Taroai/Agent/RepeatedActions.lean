import Taroai.Lib.JsonReading
import Taroai.Agent.State
import Mathlib.Data.List.Dedup

/-! Whether a proposed action repeats one that has succeeded. The inputs are compared as texts of
the part that the schema of the tool selects. How a float is written is a parameter. -/

namespace Taroai.Agent.RepeatedActions

open Json

/-- What the comparison reads of an `AgentDecision`. -/
structure Decision where
  kind : DecisionKind
  toolName : Option String
  skillId : Option String
  toolInput : Items
  proper : Proper (.dict toolInput)

structure Observation where
  actionId : String
  success : Bool
  output : Items

structure Action where
  id : String
  decision : Decision
  observation : Option Observation

/-- What the comparison reads of the input schema of a tool; `none` when `properties` is no
dictionary. -/
structure InputSchema where
  required : List String := []
  properties : Option (List String) := some []

/-- `bool(value)` -/
def truthy : Json → Bool
  | .null => false
  | .bool b => b
  | .int n => n ≠ 0
  | .float q => q ≠ 0
  | .text s => s ≠ ""
  | .list xs => !xs.isEmpty
  | .dict items => !items.isEmpty

/-- `tool_input.get(key)` -/
def read (input : Items) (key : String) : Json := (input.get? key).getD .null

def comparedKeys (schema : Option InputSchema) : List String :=
  let schema := schema.getD {}
  if schema.required = [] then
    (schema.properties.getD []).insertionSort fun a b => a ≤ b
  else schema.required

def comparableInput (schema : Option InputSchema) (input : Items) : Items :=
  if comparedKeys schema = [] then input
  else (comparedKeys schema).dedup.map fun key => (key, read input key)

section
variable (float : Rat → String)

def actionSignature (decision : Decision) (schema : Option InputSchema) :
    Option (String × Option String × List Char) :=
  if decision.kind = .action then
    decision.toolName.map fun toolName =>
      (toolName, decision.skillId, dumpsSorted float (.dict (comparableInput schema decision.toolInput)))
  else none

/-- The schemas of the registered tools, with those of the connectors in front of them. -/
def schemaOf (policies connectorTools : List (String × InputSchema)) (toolName : String) :
    Option InputSchema :=
  ((connectorTools.reverse.find? fun tool => tool.1 = toolName).or
    (policies.find? fun tool => tool.1 = toolName)).map Prod.snd

/-- `action.observation or observations.get(action.id)` -/
def observationOf (observations : List Observation) (action : Action) : Option Observation :=
  action.observation.or (observations.reverse.find? fun item => item.actionId = action.id)

variable (policies connectorTools : List (String × InputSchema))

def matchingActionObservations (observations : List Observation) (actions : List Action)
    (decision : Decision) : List Observation :=
  match decision.kind, decision.toolName with
  | .action, some toolName =>
    let signature := actionSignature float decision (schemaOf policies connectorTools toolName)
    actions.filterMap fun action =>
      if actionSignature float action.decision
          (schemaOf policies connectorTools (action.decision.toolName.getD "")) = signature then
        observationOf observations action
      else none
  | _, _ => []

def repeatsSuccessfulAction (observations : List Observation) (actions : List Action)
    (decision : Decision) : Bool :=
  if decision.kind = .action ∧ decision.toolName = some "memory.save" then
    observations.any fun observation => observation.success && truthy (read observation.output "memory_id")
  else
    (matchingActionObservations float policies connectorTools observations actions decision).any
      fun observation => observation.success

end

/-- The inputs are the same on what the schema selects: the keys it requires, else those it
declares, else all of the input. A key that is missing reads as null. -/
def SameCompared (schema : Option InputSchema) (a b : Items) : Prop :=
  if comparedKeys schema = [] then same (.dict a) (.dict b) = true
  else ∀ key ∈ comparedKeys schema, same (read a key) (read b key) = true

theorem read_proper {input : Items} (proper : Proper (.dict input)) (key : String) :
    Proper (read input key) := by
  rw [Proper] at proper
  unfold read Items.get?
  cases found : input.find? fun item => item.1 = key with
  | none => simp [Proper]
  | some item => exact proper.2.of_mem (List.mem_of_find?_eq_some found)

theorem comparableInput_proper (schema : Option InputSchema) {input : Items}
    (proper : Proper (.dict input)) : Proper (.dict (comparableInput schema input)) := by
  unfold comparableInput
  split
  · exact proper
  · rw [Proper, List.map_map]
    constructor
    · have keys : (Prod.fst ∘ fun key => (key, read input key)) = id := rfl
      rw [keys, List.map_id]
      exact List.nodup_dedup (comparedKeys schema)
    · refine ProperItems.intro fun item among => ?_
      obtain ⟨key, -, rfl⟩ := List.mem_map.mp among
      exact read_proper proper key

theorem same_items {items others : Items} (alike : sameItems items others = true) {key : String}
    {value : Json} (among : (key, value) ∈ items) :
    ∃ other, others.get? key = some other ∧ same value other = true := by
  induction items with
  | nil => cases among
  | cons item items ih =>
    rw [sameItems, Bool.and_eq_true] at alike
    cases among with
    | head =>
      cases found : others.get? key with
      | none => simp [found] at alike
      | some other => exact ⟨other, rfl, by simpa [found] using alike.1⟩
    | tail _ later => exact ih alike.2 later

theorem sameCompared_of_same {schema : Option InputSchema} {a b : Items}
    (alike : same (.dict (comparableInput schema a)) (.dict (comparableInput schema b)) = true) :
    SameCompared schema a b := by
  unfold SameCompared
  unfold comparableInput at alike
  split_ifs at alike ⊢ with whole
  · exact alike
  · intro key among
    rw [same] at alike
    simp only [List.length_map, decide_true, Bool.true_and] at alike
    have member : (key, read a key) ∈
        (comparedKeys schema).dedup.map fun key => (key, read a key) :=
      List.mem_map_of_mem (List.mem_dedup.mpr among)
    obtain ⟨other, found, equal⟩ := same_items alike member
    obtain ⟨_, -, pair⟩ := List.mem_map.mp (mem_of_get? found)
    obtain ⟨rfl, rfl⟩ := Prod.mk.inj pair
    exact equal

section
variable {F : FloatText} {policies connectorTools : List (String × InputSchema)}

theorem actionSignature_eq {decision : Decision} {schema : Option InputSchema} {toolName : String}
    {skillId : Option String} {text : List Char}
    (signed : actionSignature F.text decision schema = some (toolName, skillId, text)) :
    decision.toolName = some toolName ∧ decision.skillId = skillId ∧
      dumpsSorted F.text (.dict (comparableInput schema decision.toolInput)) = text := by
  unfold actionSignature at signed
  split at signed
  · obtain ⟨name, named, parts⟩ := Option.map_eq_some_iff.mp signed
    obtain ⟨rfl, rest⟩ := Prod.mk.inj parts
    obtain ⟨skill, text⟩ := Prod.mk.inj rest
    exact ⟨named, skill, text⟩
  · cases signed

/-- Equal signatures are those of calls of one tool under one skill with the same inputs, as far
as the schema of the tool has them compared. -/
theorem sameCompared_of_signature {earlier proposed : Decision} {toolName : String}
    (kind : proposed.kind = .action) (named : proposed.toolName = some toolName)
    (signatures : actionSignature F.text earlier
        (schemaOf policies connectorTools (earlier.toolName.getD "")) =
      actionSignature F.text proposed (schemaOf policies connectorTools toolName)) :
    earlier.toolName = some toolName ∧ earlier.skillId = proposed.skillId ∧
      SameCompared (schemaOf policies connectorTools toolName) earlier.toolInput
        proposed.toolInput := by
  have signed : actionSignature F.text proposed (schemaOf policies connectorTools toolName) =
      some (toolName, proposed.skillId, dumpsSorted F.text (.dict (comparableInput
        (schemaOf policies connectorTools toolName) proposed.toolInput))) := by
    rw [actionSignature, if_pos kind, named, Option.map_some]
  rw [signed] at signatures
  obtain ⟨tool, skill, texts⟩ := actionSignature_eq signatures
  refine ⟨tool, skill, sameCompared_of_same ?_⟩
  rw [tool, Option.getD_some] at texts
  exact same_of_dumpsSorted (comparableInput_proper _ earlier.proper)
    (comparableInput_proper _ proposed.proper) texts

theorem matching_of_mem {observations : List Observation} {actions : List Action}
    {decision : Decision} {observation : Observation}
    (among : observation ∈
      matchingActionObservations F.text policies connectorTools observations actions decision) :
    ∃ toolName action, decision.toolName = some toolName ∧ action ∈ actions ∧
      observationOf observations action = some observation ∧
      action.decision.toolName = some toolName ∧ action.decision.skillId = decision.skillId ∧
      SameCompared (schemaOf policies connectorTools toolName) action.decision.toolInput
        decision.toolInput := by
  unfold matchingActionObservations at among
  split at among
  · rename_i toolName kind named
    obtain ⟨action, member, observed⟩ := List.mem_filterMap.mp among
    split_ifs at observed with signatures
    obtain ⟨tool, skill, inputs⟩ := sameCompared_of_signature kind named signatures
    exact ⟨toolName, action, named, member, observed, tool, skill, inputs⟩
  · cases among

/-- A proposal is suppressed only if a successful action of the run called the same tool under
the same skill with the same inputs, as far as the schema of the tool has them compared;
`memory.save` only if a successful observation holds the id of a memory. -/
theorem suppressed_only_if (F : FloatText) (policies connectorTools : List (String × InputSchema))
    (observations : List Observation) (actions : List Action) (decision : Decision)
    (suppressed : repeatsSuccessfulAction F.text policies connectorTools observations actions
      decision = true) :
    if decision.toolName = some "memory.save" then
      ∃ observation ∈ observations, observation.success = true ∧
        truthy (read observation.output "memory_id") = true
    else
      ∃ toolName, decision.toolName = some toolName ∧ ∃ action ∈ actions,
        (∃ observation, observationOf observations action = some observation ∧
          observation.success = true) ∧
        action.decision.toolName = some toolName ∧ action.decision.skillId = decision.skillId ∧
        SameCompared (schemaOf policies connectorTools toolName) action.decision.toolInput
          decision.toolInput := by
  unfold repeatsSuccessfulAction at suppressed
  split at suppressed
  · rename_i save
    rw [if_pos save.2]
    obtain ⟨observation, member, saved⟩ := List.any_eq_true.mp suppressed
    rw [Bool.and_eq_true] at saved
    exact ⟨observation, member, saved⟩
  · rename_i not_save
    obtain ⟨observation, among, success⟩ := List.any_eq_true.mp suppressed
    obtain ⟨toolName, action, named, member, observed, tool, skill, inputs⟩ := matching_of_mem among
    have kind : decision.kind = .action := by
      by_contra other
      unfold matchingActionObservations at among
      split at among
      · rename_i action _
        exact other action
      · cases among
    rw [if_neg fun save => not_save ⟨kind, save⟩]
    exact ⟨toolName, named, action, member, ⟨observation, observed, success⟩, tool, skill, inputs⟩

end

theorem e_stops (r : List Char) : ∀ c ∈ ('e' :: r).head?, intChar c = false := by
  rintro c ⟨⟩
  decide

/-- Floats as a numerator, an `e` and a denominator. -/
def fractions : FloatText where
  text q := toString q.num ++ "e" ++ toString (Int.ofNat q.den)
  nonempty q empty := by
    simp [String.toList_append] at empty
  chars q := by
    rw [String.toList_append, String.toList_append, List.all_append, List.all_append, int_number,
      int_number]
    decide
  injective p q texts := by
    have chars := congrArg String.toList texts
    simp only [String.toList_append, List.append_assoc] at chars
    obtain ⟨nums, dens⟩ := append_unique (int_chars p.num) (int_chars q.num) (e_stops _) (e_stops _)
      chars
    have den := int_injective (List.cons.inj dens).2
    exact Rat.ext (int_injective nums) (Int.ofNat.inj den)
  not_int q n texts := by
    have among : 'e' ∈ (toString n).toList := by
      rw [← texts, String.toList_append, String.toList_append]
      simp
    exact absurd (List.all_eq_true.mp (int_chars n) _ among) (by decide)

def lookupSchema : List (String × InputSchema) :=
  [("research.lookup", { required := ["query"], properties := some ["query", "limit"] })]

def lookup (input : Items) (proper : Proper (.dict input)) : Decision where
  kind := .action
  toolName := some "research.lookup"
  skillId := none
  toolInput := input
  proper

def factsLookup : Decision :=
  lookup [("query", .text "current facts")] (by simp [Proper, ProperItems])

def limitedLookup : Decision :=
  lookup [("query", .text "current facts"), ("limit", .int 10)] (by simp [Proper, ProperItems])

def looked : Action where
  id := "action_1"
  decision := factsLookup
  observation := some { actionId := "action_1", success := true, output := [("ok", .bool true)] }

theorem lookup_repeated : ∃ action ∈ [looked], action.decision.toolName = some "research.lookup" ∧
    SameCompared (schemaOf lookupSchema [] "research.lookup") action.decision.toolInput
      limitedLookup.toolInput := by
  have only := suppressed_only_if fractions lookupSchema [] [] [looked] limitedLookup
    (by decide +kernel)
  rw [if_neg (by decide)] at only
  obtain ⟨toolName, named, action, member, -, tool, -, inputs⟩ := only
  obtain rfl := Option.some.inj named
  exact ⟨action, member, tool, inputs⟩

/-- The second lookup has a limit, which the tool does not require: it is suppressed although the
inputs differ. -/
theorem limit_ignored :
    repeatsSuccessfulAction fractions.text lookupSchema [] [] [looked] limitedLookup = true ∧
      ∀ action ∈ [looked],
        same (.dict action.decision.toolInput) (.dict limitedLookup.toolInput) = false := by
  refine ⟨by decide +kernel, ?_⟩
  simp only [List.mem_singleton, forall_eq]
  decide +kernel

end Taroai.Agent.RepeatedActions
