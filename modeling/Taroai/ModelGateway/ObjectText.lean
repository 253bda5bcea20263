import Taroai.Lib.JsonGrammar
import Taroai.Lib.JsonText

/-! The object that the gateway takes out of what a model wrote (`_extract_first_json_object` and
`_parse_plan_json` in `model_gateway/gateway.py`). -/

namespace Taroai.ModelGateway

open Json

/-- The loop of `_extract_first_json_object`: how many characters there are up to the brace that
closes the first. -/
def closingIndex (depth : Int) (inString escaped : Bool) : List Char → Option Nat
  | [] => none
  | character :: rest =>
    if inString then
      if escaped then (closingIndex depth true false rest).map (· + 1)
      else if character = '\\' then (closingIndex depth true true rest).map (· + 1)
      else if character = '"' then (closingIndex depth false escaped rest).map (· + 1)
      else (closingIndex depth true escaped rest).map (· + 1)
    else if character = '"' then (closingIndex depth true escaped rest).map (· + 1)
    else if character = '{' then (closingIndex (depth + 1) false escaped rest).map (· + 1)
    else if character = '}' then
      if depth - 1 = 0 then some 1
      else (closingIndex (depth - 1) false escaped rest).map (· + 1)
    else (closingIndex depth false escaped rest).map (· + 1)

/-- `_extract_first_json_object`; the characters before the first brace are skipped. -/
def extractFirstJsonObject (text : String) : Option String :=
  let found := text.toList.dropWhile (· ≠ '{')
  (closingIndex 0 false false found).map fun count => String.ofList (found.take count)

/-- `ModelGatewayResponseError`. -/
structure ModelGatewayResponseError where
  message : String
deriving DecidableEq, Repr

variable (numeral : List Char → Json)

/-- `_parse_plan_json`. -/
def parsePlanJson (outputText : String) : Except ModelGatewayResponseError Json :=
  match loads numeral outputText.toList with
  | some parsed => .ok parsed
  | none =>
    match extractFirstJsonObject outputText with
    | none => .error ⟨"model gateway plan output must include a JSON object"⟩
    | some extracted =>
      match loads numeral extracted.toList with
      | some parsed => .ok parsed
      | none => .error ⟨"model gateway plan output must include valid JSON"⟩

section Scanner

variable {depth : Int}

theorem closingIndex_string {body : List Char} (body_ok : StringBody body) (rest : List Char) :
    closingIndex depth true false (body ++ '"' :: rest) =
      (closingIndex depth false false rest).map (· + (body.length + 1)) := by
  induction body_ok with
  | empty => simp [closingIndex]
  | char plain _ ih => simp [closingIndex, plain, ih, Function.comp_def, Nat.add_assoc]
  | escape c _ ih => simp [closingIndex, ih, Function.comp_def, Nat.add_assoc]

theorem closingIndex_balanced {s : List Char} (balanced : Balanced s) (inside : 0 < depth)
    (rest : List Char) : closingIndex depth false false (s ++ rest) =
      (closingIndex depth false false rest).map (· + s.length) := by
  induction balanced generalizing depth rest with
  | empty => simp
  | char plain _ ih =>
    simp [closingIndex, plain, ih inside, Function.comp_def, Nat.add_assoc]
  | string body_ok _ ih =>
    rename_i body later _
    have quoted (d : ℤ) := @closingIndex_string d _ body_ok (later ++ rest)
    rw [List.cons_append, List.append_assoc, List.cons_append, closingIndex, if_neg (by simp),
      if_pos rfl, quoted depth, ih inside]
    simp only [Option.map_map, List.length_cons, List.length_append]
    congr 1
    funext count
    simp only [Function.comp_apply]
    omega
  | braces _ _ ih_inner ih =>
    rename_i body later _ _
    have deeper : 0 < depth + 1 := by omega
    have open_still : depth + 1 - 1 ≠ 0 := by omega
    rw [List.cons_append, List.append_assoc, List.cons_append, closingIndex, if_neg (by simp),
      if_neg (by decide), if_pos rfl, ih_inner deeper, closingIndex, if_neg (by simp),
      if_neg (by decide), if_neg (by decide), if_pos rfl, if_neg open_still, Int.add_sub_cancel,
      ih inside]
    simp only [Option.map_map, List.length_cons, List.length_append]
    congr 1
    funext count
    simp only [Function.comp_apply]
    omega

/-- A text that closes so many braces, with its last character the last of them. -/
def Closes : Nat → List Char → Prop
  | 0, s => s = []
  | depth + 1, s => ∃ inside later, Balanced inside ∧ s = inside ++ '}' :: later ∧ Closes depth later

theorem Closes.prepend {n : Nat} {before s : List Char} (balanced : Balanced before)
    (closes : Closes (n + 1) s) : Closes (n + 1) (before ++ s) := by
  obtain ⟨inside, later, inner, rfl, rest⟩ := closes
  exact ⟨before ++ inside, later, balanced.append inner, (List.append_assoc _ _ _).symm, rest⟩

def StringRest (escaped : Bool) (body : List Char) : Prop :=
  if escaped then ∃ c rest, body = c :: rest ∧ StringBody rest else StringBody body

theorem closes_of_closingIndex (text : List Char) : ∀ (n count : Nat),
    (closingIndex (n + 1) false false text = some count → Closes (n + 1) (text.take count)) ∧
    ∀ escaped, closingIndex (n + 1) true escaped text = some count →
      ∃ body later, StringRest escaped body ∧ text.take count = body ++ '"' :: later ∧
        Closes (n + 1) later := by
  induction text with
  | nil =>
    refine fun n count => ⟨fun found => ?_, fun escaped found => ?_⟩
    · cases found
    · cases found
  | cons c text ih =>
    refine fun n count => ⟨fun found => ?_, fun escaped found => ?_⟩
    · rw [closingIndex, if_neg Bool.false_ne_true] at found
      split_ifs at found with quote opening closing last
      · obtain ⟨count, later_found, rfl⟩ := Option.map_eq_some_iff.mp found
        obtain ⟨body, later, body_ok, taken, closes⟩ := (ih n count).2 false later_found
        rw [List.take_succ_cons, taken, quote]
        have string := Balanced.string body_ok Balanced.empty
        have whole := closes.prepend string
        rwa [List.cons_append, List.append_assoc] at whole
      · obtain ⟨count, later_found, rfl⟩ := Option.map_eq_some_iff.mp found
        obtain ⟨inside, later, inner, taken, closes⟩ := (ih (n + 1) count).1 later_found
        rw [List.take_succ_cons, taken, opening]
        have braces := Balanced.braces inner Balanced.empty
        have whole := closes.prepend braces
        rwa [List.cons_append, List.append_assoc] at whole
      · obtain rfl := Option.some.inj found
        have zero : n = 0 := by omega
        subst zero
        exact ⟨[], [], .empty, by rw [closing]; rfl, rfl⟩
      · obtain ⟨count, later_found, rfl⟩ := Option.map_eq_some_iff.mp found
        cases n with
        | zero => exact absurd rfl last
        | succ n =>
          have one_less : ((n + 1 : Nat) : Int) + 1 - 1 = (n : Int) + 1 := by omega
          rw [one_less] at later_found
          have closes := (ih n count).1 later_found
          exact ⟨[], text.take count, .empty, by rw [List.take_succ_cons, closing]; rfl, closes⟩
      · obtain ⟨count, later_found, rfl⟩ := Option.map_eq_some_iff.mp found
        have plain : Balanced [c] := .char ⟨quote, opening, closing⟩ .empty
        rw [List.take_succ_cons]
        exact ((ih n count).1 later_found).prepend plain
    · rw [closingIndex, if_pos rfl] at found
      cases escaped with
      | true =>
        rw [if_pos rfl] at found
        obtain ⟨count, later_found, rfl⟩ := Option.map_eq_some_iff.mp found
        obtain ⟨body, later, body_ok, taken, closes⟩ := (ih n count).2 false later_found
        exact ⟨c :: body, later, ⟨c, body, rfl, body_ok⟩, by rw [List.take_succ_cons, taken]; rfl,
          closes⟩
      | false =>
        rw [if_neg Bool.false_ne_true] at found
        split_ifs at found with slash quote
        · obtain ⟨count, later_found, rfl⟩ := Option.map_eq_some_iff.mp found
          obtain ⟨_, later, ⟨d, body, rfl, body_ok⟩, taken, closes⟩ := (ih n count).2 true later_found
          exact ⟨c :: d :: body, later, slash ▸ StringBody.escape d body_ok,
            by rw [List.take_succ_cons, taken]; rfl, closes⟩
        · obtain ⟨count, later_found, rfl⟩ := Option.map_eq_some_iff.mp found
          have closes := (ih n count).1 later_found
          exact ⟨[], text.take count, StringBody.empty, by rw [List.take_succ_cons, quote]; rfl, closes⟩
        · obtain ⟨count, later_found, rfl⟩ := Option.map_eq_some_iff.mp found
          obtain ⟨body, later, body_ok, taken, closes⟩ := (ih n count).2 false later_found
          exact ⟨c :: body, later, StringBody.char ⟨quote, slash⟩ body_ok,
            by rw [List.take_succ_cons, taken]; rfl, closes⟩

theorem closingIndex_object {object : List Char} (balanced : BalancedObject object)
    (rest : List Char) :
    closingIndex 0 false false (object ++ rest) = some object.length := by
  obtain ⟨inside, inner, rfl⟩ := balanced
  have one : (0 : Int) < 0 + 1 := by omega
  rw [List.cons_append, List.append_assoc, List.singleton_append, closingIndex, if_neg (by simp),
    if_neg (by decide), if_pos rfl, closingIndex_balanced inner one, closingIndex, if_neg (by simp),
    if_neg (by decide), if_neg (by decide), if_pos rfl, if_pos (Int.add_sub_cancel 0 1)]
  simp [Nat.add_comm]

theorem balanced_of_closingIndex {text : List Char} {count : Nat} (head : text.head? = some '{')
    (found : closingIndex 0 false false text = some count) : BalancedObject (text.take count) := by
  cases text with
  | nil => cases head
  | cons c text =>
    obtain rfl : c = '{' := Option.some.inj head
    rw [closingIndex, if_neg (by simp), if_neg (by decide), if_pos rfl] at found
    obtain ⟨count, later_found, rfl⟩ := Option.map_eq_some_iff.mp found
    obtain ⟨inside, later, inner, taken, rest⟩ := (closes_of_closingIndex text 0 count).1 later_found
    obtain rfl : later = [] := rest
    exact ⟨inside, inner, by rw [List.take_succ_cons, taken]⟩

theorem dropWhile_first {before : List Char} (clear : '{' ∉ before) (rest : List Char) :
    (before ++ '{' :: rest).dropWhile (· ≠ '{') = '{' :: rest := by
  have skipped : ∀ c ∈ before, decide (c ≠ '{') = true := by
    intro c among
    exact decide_eq_true fun same => clear (same ▸ among)
  rw [List.dropWhile_append_of_pos skipped, List.dropWhile_cons_of_neg (by simp)]

/-- The text that is taken out is the balanced one that the first brace begins, if there is one. -/
theorem extractFirstJsonObject_iff (text object : String) :
    extractFirstJsonObject text = some object ↔
      ∃ before after : String, text = before ++ object ++ after ∧ '{' ∉ before.toList ∧
        BalancedObject object.toList := by
  unfold extractFirstJsonObject
  constructor
  · intro extracted
    obtain ⟨count, found, rfl⟩ := Option.map_eq_some_iff.mp extracted
    generalize rest_eq : text.toList.dropWhile (· ≠ '{') = rest at found
    have head : rest.head? = some '{' := by
      cases rest with
      | nil => cases found
      | cons c rest =>
        have stops := List.head?_dropWhile_not (· ≠ '{') text.toList
        rw [rest_eq] at stops
        simpa using stops
    refine ⟨String.ofList (text.toList.takeWhile (· ≠ '{')), String.ofList (rest.drop count), ?_, ?_, ?_⟩
    · rw [← String.toList_inj]
      simp only [String.toList_append, String.toList_ofList, List.append_assoc, List.take_append_drop]
      rw [← rest_eq, List.takeWhile_append_dropWhile]
    · rw [String.toList_ofList]
      intro among
      simpa using List.mem_takeWhile_imp among
    · rw [String.toList_ofList]
      exact balanced_of_closingIndex head found
  · rintro ⟨before, after, rfl, clear, balanced⟩
    have whole := closingIndex_object balanced after.toList
    obtain ⟨inside, inner, starts⟩ := balanced
    have found : (before ++ object ++ after).toList.dropWhile (· ≠ '{') =
        object.toList ++ after.toList := by
      rw [String.toList_append, String.toList_append, List.append_assoc, starts, List.cons_append]
      exact dropWhile_first clear _
    dsimp only
    rw [found, whole, Option.map_some, List.take_left, String.ofList_toList]

end Scanner

/-- The text of a dictionary is taken out whatever stands around it; where no balanced object
begins with the first brace, nothing is, and the text is refused. -/
theorem extracts_object :
    (∀ before object after : String, '{' ∉ before.toList → ObjectText object.toList →
      extractFirstJsonObject (before ++ object ++ after) = some object) ∧
    (∀ text object : String, extractFirstJsonObject text = some object →
      ∃ before after : String, text = before ++ object ++ after ∧ '{' ∉ before.toList ∧
        BalancedObject object.toList) ∧
    ∀ text : String, (¬∃ before object after : String, text = before ++ object ++ after ∧
        '{' ∉ before.toList ∧ BalancedObject object.toList) →
      extractFirstJsonObject text = none ∧ (loads numeral text.toList = none →
        parsePlanJson numeral text =
          .error ⟨"model gateway plan output must include a JSON object"⟩) := by
  refine ⟨fun before object after clear written => ?_, fun text object extracted => ?_,
    fun text none_starts => ?_⟩
  · exact (extractFirstJsonObject_iff _ _).mpr ⟨before, after, rfl, clear, written.balanced⟩
  · exact (extractFirstJsonObject_iff _ _).mp extracted
  · have nothing : extractFirstJsonObject text = none := by
      rw [Option.eq_none_iff_forall_ne_some]
      intro object extracted
      obtain ⟨before, after, parts⟩ := (extractFirstJsonObject_iff _ _).mp extracted
      exact none_starts ⟨before, object, after, parts⟩
    refine ⟨nothing, fun unread => ?_⟩
    unfold parsePlanJson
    rw [unread, nothing]

/-- Braces and an escaped quote within a string, and a brace behind the object. -/
theorem extracts_object_quoted :
    extractFirstJsonObject ("So: " ++ "\x7b\"k\": \"\x7d\\\"\x7b\"\x7d" ++ " \x7d") =
      some "\x7b\"k\": \"\x7d\\\"\x7b\"\x7d" := by
  refine (extracts_object fun _ => .null).1 _ _ _ (by decide) ?_
  have body : StringBody ['}', '\\', '"', '{'] :=
    .char (by decide) (.escape '"' (.char (by decide) .empty))
  refine ⟨[], [(['"', 'k', '"'], ' ' :: '"' :: (['}', '\\', '"', '{'] ++ ['"']))], blank_nil,
    ?_, ?_, rfl⟩
  · exact List.forall_mem_singleton.mpr
      ⟨[], ['k'], [], blank_nil, .char (by decide) .empty, blank_nil, rfl⟩
  · exact List.forall_mem_singleton.mpr (spaced_value (.string body))

end Taroai.ModelGateway
