import Taroai.Evaluation.Scorers
import Taroai.Governance.SchemaMeaning

/-! What the schema scorer finds no violation in, beside what the schema means. The verdicts on
sub-schemas are counted, so they have to be those of the meaning at every position. -/

namespace Taroai.Evaluation

open Json JsonSchema Governance
open Governance.Schema (joined isIn iterate checkBound ChosenHere AsInteger Confused)

def evaluatedKeywords : List String :=
  ["type", "const", "enum", "required", "properties", "additionalProperties", "items", "minItems",
    "maxItems", "minProperties", "maxProperties", "minLength", "maxLength", "minimum", "maximum",
    "pattern", "allOf", "anyOf", "oneOf"]

/-- The check does not raise, and finds nothing exactly when the property holds. -/
def Decides (checked : Except SchemaError (List String)) (P : Prop) : Prop :=
  ∃ violations, checked = .ok violations ∧ (violations = [] ↔ P)

theorem Decides.congr {checked : Except SchemaError (List String)} {P Q : Prop}
    (decides : Decides checked P) (same : P ↔ Q) : Decides checked Q := by
  obtain ⟨violations, done, nothing⟩ := decides
  exact ⟨violations, done, nothing.trans same⟩

theorem decides_nil {P : Prop} (holds : P) : Decides (.ok []) P := ⟨[], rfl, by simp [holds]⟩

theorem decides_error {message : String} {P : Prop} (fails : ¬P) : Decides (.ok [message]) P :=
  ⟨[message], rfl, by simp [fails]⟩

theorem decides_if {p : Bool} {message : String} {P : Prop} (same : p = true ↔ P) :
    Decides (.ok (if p then [] else [message])) P := by
  cases p with
  | true => exact decides_nil (same.mp rfl)
  | false => exact decides_error fun holds => by cases same.mpr holds

theorem decides_ifM {asked : Except SchemaError Bool} {p : Bool} {message : String} {P : Prop}
    (answered : asked = .ok p) (same : p = true ↔ P) :
    Decides (do if ← asked then return [] else return [message]) P := by
  subst answered
  cases p with
  | true => exact decides_nil (same.mp rfl)
  | false => exact decides_error fun holds => by cases same.mpr holds

theorem Decides.joined {first second : Except SchemaError (List String)} {P Q : Prop}
    (one : Decides first P) (two : Decides second Q) : Decides (joined first second) (P ∧ Q) := by
  obtain ⟨errors, done, nothing⟩ := one
  obtain ⟨others, done', nothing'⟩ := two
  refine ⟨errors ++ others, ?_, ?_⟩
  · rw [done, done']
    rfl
  · rw [List.append_eq_nil_iff, nothing, nothing']

section Checks

variable {texts : Texts} {keywords : Items} {value : Json} {path : String}

def ConstantHere (keywords : Items) (value : Json) : Prop :=
  ∀ constant, keywords.get? "const" = some constant → value.same constant = true

theorem checkConst_decides :
    Decides (checkConst value keywords path) (ConstantHere keywords value) := by
  unfold checkConst ConstantHere
  cases found : keywords.get? "const" with
  | none => exact decides_nil fun constant impossible => by cases impossible
  | some constant => exact decides_if (by simp)

theorem checkEnum_decides (formed : Formed evaluatedKeywords keywords) :
    Decides (checkEnum value keywords path) (ChosenHere keywords value) := by
  unfold checkEnum ChosenHere
  cases found : keywords.get? "enum" with
  | none => exact decides_nil fun choices impossible => by cases impossible
  | some choices =>
    obtain ⟨xs, rfl⟩ := formed.enum choices found
    refine decides_ifM rfl ?_
    rw [List.any_eq_true]
    simp

theorem missingProperties_decides {fields : Items} {names : List String} :
    Decides (missingProperties texts fields path (names.map Json.text))
      (∀ name ∈ names, (Items.get? fields name).isSome) := by
  induction names with
  | nil => exact decides_nil fun name none => absurd none List.not_mem_nil
  | cons name rest ih =>
    obtain ⟨violations, done, nothing⟩ := ih
    rw [List.map_cons, missingProperties, done]
    cases present : (Items.get? fields name).isSome with
    | true =>
      refine ⟨violations, ?_, by simp [nothing, present]⟩
      change (do let present ← (.ok _ : Except SchemaError Bool); _) = _
      rw [present]
      rfl
    | false =>
      refine ⟨(path ++ ": missing required property " ++ texts.format (.text name)) :: violations, ?_,
        by simp [present]⟩
      change (do let present ← (.ok _ : Except SchemaError Bool); _) = _
      rw [present]
      rfl

theorem checkRequired_decides (formed : Formed evaluatedKeywords keywords) (fields : Items) :
    Decides (checkRequired texts fields keywords path) (Required keywords (.dict fields)) := by
  unfold checkRequired
  cases found : keywords.get? "required" with
  | none =>
    refine decides_nil fun others keys _ listed => ?_
    rw [found] at listed
    cases listed
  | some keys =>
    obtain ⟨names, rfl⟩ := formed.required keys found
    refine missingProperties_decides.congr ⟨?_, ?_⟩
    · rintro present _ keys ⟨⟩ listed name member
      rw [found] at listed
      cases listed
      obtain ⟨same, inside, ⟨⟩⟩ := List.mem_map.mp member
      exact present _ inside
    · intro required name member
      exact required fields _ rfl found name (List.mem_map_of_mem member)

theorem checkAdditional_decides {fields known : Items}
    (declared : (keywords.get? "properties").getD (.dict []) = .dict known) :
    Decides (.ok (checkAdditional texts fields keywords known path))
      (NoExtra keywords (.dict fields)) := by
  have extra (name : String) : Extra keywords name ↔ (known.get? name).isNone = true := by
    unfold Extra
    rw [Option.isNone_iff_eq_none]
    cases found : keywords.get? "properties" with
    | none =>
      rw [found] at declared
      cases declared
      exact ⟨fun _ => rfl, fun _ _ impossible => by cases impossible⟩
    | some listed =>
      rw [found] at declared
      cases declared
      exact ⟨fun none => none known rfl, by rintro none _ ⟨⟩; exact none⟩
  unfold checkAdditional NoExtra
  split
  · next closed =>
    have none_left : (fields.map Prod.fst).filter (fun key => (known.get? key).isNone) = [] ↔
        ∀ field ∈ fields, ¬Extra keywords field.1 := by
      rw [List.filter_eq_nil_iff]
      constructor
      · intro none field member undeclared
        exact none field.1 (List.mem_map_of_mem member) ((extra field.1).mp undeclared)
      · intro none key member undeclared
        obtain ⟨field, inside, rfl⟩ := List.mem_map.mp member
        exact none field inside ((extra field.1).mpr undeclared)
    dsimp only
    split
    · next nothing =>
      refine decides_nil ?_
      rintro _ _ ⟨⟩
      exact none_left.mp nothing
    · next something =>
      exact decides_error fun none => something (none_left.mpr (none closed fields rfl))
  · next open_ => exact decides_nil fun closed => absurd closed open_

theorem checkBound_decides {keyword : String} {breaks : Rat → Bool} {message : Json → String}
    {kept : Rat → Prop} (formed : Formed evaluatedKeywords keywords) (bounds : keyword ∈ boundNames)
    (same : ∀ limit, breaks limit = false ↔ kept limit) :
    Decides (checkBound keywords keyword breaks message) (Limit keywords keyword kept) := by
  unfold checkBound Limit
  cases found : keywords.get? keyword with
  | none => exact decides_nil fun bound limit impossible => by cases impossible
  | some bound =>
    obtain ⟨q, numeric⟩ := formed.bounds keyword bounds bound found
    have within : breaks q = false ↔ ∀ other limit, some bound = some other →
        numeric? other = some limit → kept limit := by
      rw [same]
      constructor
      · rintro holds _ limit ⟨⟩ number
        rw [numeric] at number
        cases number
        exact holds
      · exact fun every => every bound q rfl numeric
    have compares : Schema.compared bound breaks = .ok (breaks q) := by
      unfold Schema.compared
      rw [number_of_numeric numeric]
    cases bound with
    | null => cases numeric
    | _ =>
      dsimp only
      rw [compares]
      cases broken : breaks q with
      | false => exact decides_nil (within.mp broken)
      | true => exact decides_error fun every => by cases broken.symm.trans (within.mpr every)

theorem checkRange_decides {q : Rat} {lower upper : String} {below above : Json → String}
    (formed : Formed evaluatedKeywords keywords) (low : lower ∈ boundNames)
    (high : upper ∈ boundNames) :
    Decides (checkRange q keywords path lower upper below above) (Between keywords lower upper q) :=
  (checkBound_decides formed low fun _ => decide_eq_false_iff_not.trans not_lt).joined
    (checkBound_decides formed high fun _ => decide_eq_false_iff_not.trans not_lt)

/-- What `re.search` finds; a pattern that `re` does not accept is found nowhere. -/
def Found (texts : Texts) (pattern s : String) : Prop := texts.search pattern s = some true

theorem checkPattern_decides (formed : Formed evaluatedKeywords keywords) (s : String) :
    Decides (checkPattern texts s keywords path) (Matched (Found texts) keywords (.text s)) := by
  unfold checkPattern Matched
  cases found : keywords.get? "pattern" with
  | none => exact decides_nil fun t pattern _ impossible => by cases impossible
  | some held =>
    obtain ⟨pattern, rfl⟩ := formed.pattern held found
    have meant : (∀ t p, Json.text s = .text t → some (Json.text pattern) = some (.text p) →
        Found texts p t) ↔ Found texts pattern s := by
      constructor
      · exact fun every => every s pattern rfl rfl
      · rintro matched _ _ ⟨⟩ ⟨⟩
        exact matched
    dsimp only
    unfold Found at meant
    cases searched : texts.search pattern s with
    | none => exact decides_error fun every => by cases searched.symm.trans (meant.mp every)
    | some matched =>
      cases matched with
      | true => exact decides_nil (meant.mpr searched)
      | false => exact decides_error fun every => by cases searched.symm.trans (meant.mp every)

theorem isTyped_eq {name : String} (known : name ∈ typeNames) :
    isTyped value name = Schema.matchesType value (.text name) := by
  unfold typeNames at known
  simp only [List.mem_cons, List.not_mem_nil, or_false] at known
  rcases known with rfl | rfl | rfl | rfl | rfl | rfl | rfl <;> cases value <;> rfl

theorem matchesAny_eq {types : List Json} (known : ∀ one ∈ types, ∃ name ∈ typeNames, one = .text name) :
    matchesAny value types = .ok (Schema.matchesAny value types) := by
  induction types with
  | nil => rfl
  | cons one rest ih =>
    obtain ⟨name, among, rfl⟩ := known one List.mem_cons_self
    rw [matchesAny, Schema.matchesAny, isTyped_eq among,
      ih fun other member => known other (List.mem_cons_of_mem _ member)]
    cases Schema.matchesType value (.text name) <;> rfl

theorem matchesType_eq {types : Json}
    (known : ∀ one ∈ listedTypes types, ∃ name ∈ typeNames, one = .text name) :
    matchesType value types = .ok (Schema.matchesType value types) := by
  cases types with
  | text name =>
    obtain ⟨_, among, ⟨⟩⟩ := known _ (List.mem_singleton_self _)
    rw [matchesType, isTyped_eq among]
  | list names =>
    rw [Schema.matchesType]
    exact matchesAny_eq known
  | _ =>
    obtain ⟨name, -, impossible⟩ := known _ (List.mem_singleton_self _)
    cases impossible

end Checks

section Verdicts

variable {texts : Texts} {keywords : Items} {value : Json}

/-- At one position the scorer reads what the schema means: no float stands for an integer, Python
finds no constant or choice equal that is not, and no boolean sub-schema or schema of
`additionalProperties` decides. -/
structure Agrees (texts : Texts) (keywords : Items) (value : Json) : Prop where
  whole : ¬AsInteger keywords value
  constant : ∀ constant, keywords.get? "const" = some constant → value.same constant = true →
    equal value constant = true
  choices : ¬Confused keywords value
  closed : Closed (Found texts) keywords value
  combined : ∀ keyword ∈ choiceNames, ∀ choices, keywords.get? keyword = some (.list choices) →
    .bool true ∉ choices

theorem countP_eq_one {α : Type} {p : α → Bool} {xs : List α} :
    xs.countP p = 1 ↔ ∃ before x after, xs = before ++ x :: after ∧ p x = true ∧
      ∀ y ∈ before ++ after, p y = false := by
  constructor
  · intro one
    induction xs with
    | nil => cases one
    | cons x rest ih =>
      cases here : p x with
      | true =>
        rw [List.countP_cons_of_pos here, Nat.add_eq_right, List.countP_eq_zero] at one
        exact ⟨[], x, rest, rfl, here, fun y member => Bool.eq_false_iff.mpr (one y member)⟩
      | false =>
        rw [List.countP_cons_of_neg (Bool.eq_false_iff.mp here)] at one
        obtain ⟨before, y, after, rfl, found, others⟩ := ih one
        exact ⟨x :: before, y, after, rfl, found, List.forall_mem_cons.mpr ⟨here, others⟩⟩
  · rintro ⟨before, x, after, rfl, found, others⟩
    have none : (before ++ after).countP p = 0 :=
      List.countP_eq_zero.mpr fun y member => Bool.eq_false_iff.mp (others y member)
    rw [List.countP_append] at none
    rw [List.countP_append, List.countP_cons_of_pos found]
    omega

/-- The verdict of a schema, as what is counted. -/
noncomputable def verdict (texts : Texts) (value schema : Json) : Bool :=
  @decide (Satisfies (Found texts) schema value) (Classical.propDecidable _)

theorem verdict_iff {schema : Json} :
    verdict texts value schema = true ↔ Satisfies (Found texts) schema value :=
  @decide_eq_true_iff _ (Classical.propDecidable _)

theorem countMatches_verdicts {path : String} {choices : List Json}
    (formed : ∀ inner ∈ choices, WellFormed evaluatedKeywords inner) (no_true : .bool true ∉ choices)
    (each : ∀ inner, .dict inner ∈ choices → Decides (validateJsonSchema texts value inner path)
      (Satisfies (Found texts) (.dict inner) value)) :
    countMatches texts value choices path = .ok (choices.countP (verdict texts value)) := by
  induction choices with
  | nil => rw [countMatches.eq_def]; rfl
  | cons choice rest ih =>
    have later := ih (fun inner member => formed inner (List.mem_cons_of_mem _ member))
      (fun member => no_true (List.mem_cons_of_mem _ member))
      (fun inner member => each inner (List.mem_cons_of_mem _ member))
    rcases wellFormed_cases (formed choice List.mem_cons_self) with ⟨b, rfl⟩ | ⟨inner, rfl⟩
    · cases b with
      | true => exact absurd List.mem_cons_self no_true
      | false =>
        have refused : ¬verdict texts value (.bool false) = true := by
          rw [verdict_iff, satisfies_bool]
          exact Bool.false_ne_true
        rw [countMatches.eq_def]
        dsimp only
        rw [later, List.countP_cons_of_neg refused]
    · obtain ⟨violations, done, nothing⟩ := each inner List.mem_cons_self
      rw [countMatches.eq_def]
      dsimp only
      rw [done, later]
      by_cases satisfied : Satisfies (Found texts) (.dict inner) value
      · rw [List.countP_cons_of_pos (verdict_iff.mpr satisfied)]
        exact congrArg Except.ok (if_pos (nothing.mpr satisfied))
      · rw [List.countP_cons_of_neg fun counted => satisfied (verdict_iff.mp counted)]
        exact congrArg Except.ok (if_neg fun none => satisfied (nothing.mp none))

theorem validateChoices_decides {path keyword : String} {kept : Nat → Nat → Bool}
    (counted : ∀ choices, keywords.get? keyword = some (.list choices) →
      countMatches texts value choices path = .ok (choices.countP (verdict texts value))) :
    Decides (validateChoices texts value keywords path keyword kept)
      (∀ choices, keywords.get? keyword = some (.list choices) →
        kept (choices.countP (verdict texts value)) choices.length = true) := by
  rw [validateChoices.eq_def]
  split
  · next choices found =>
    rw [counted choices found]
    have only : (∀ others, keywords.get? keyword = some (.list others) →
        kept (others.countP (verdict texts value)) others.length = true) ↔
        kept (choices.countP (verdict texts value)) choices.length = true := by
      constructor
      · exact fun every => every choices found
      · intro holds others again
        rw [found] at again
        cases again
        exact holds
    refine Decides.congr ?_ only.symm
    change Decides (if kept (choices.countP (verdict texts value)) choices.length = true then .ok []
      else .ok [path ++ ": " ++ keyword ++ " constraint failed"]) _
    split
    · next holds => exact decides_nil holds
    · next fails => exact decides_error fails
  · next absent => exact decides_nil fun choices found => absurd found (absent choices)

theorem combined_iff : Combined (fun inner => Satisfies (Found texts) inner value) keywords ↔
    (∀ choices, keywords.get? "allOf" = some (.list choices) →
      decide (choices.countP (verdict texts value) = choices.length) = true) ∧
    (∀ choices, keywords.get? "anyOf" = some (.list choices) →
      decide (choices.countP (verdict texts value) ≠ 0) = true) ∧
    ∀ choices, keywords.get? "oneOf" = some (.list choices) →
      decide (choices.countP (verdict texts value) = 1) = true := by
  have all (choices : List Json) : choices.countP (verdict texts value) = choices.length ↔
      ∀ inner ∈ choices, Satisfies (Found texts) inner value := by
    rw [List.countP_eq_length]
    exact forall₂_congr fun inner _ => verdict_iff
  have any (choices : List Json) : choices.countP (verdict texts value) ≠ 0 ↔
      ∃ inner ∈ choices, Satisfies (Found texts) inner value := by
    rw [← Nat.pos_iff_ne_zero, List.countP_pos_iff]
    exact exists_congr fun inner => and_congr_right fun _ => verdict_iff
  have one (choices : List Json) : choices.countP (verdict texts value) = 1 ↔
      ∃ before inner after, choices = before ++ inner :: after ∧
        Satisfies (Found texts) inner value ∧
        ∀ other ∈ before ++ after, ¬Satisfies (Found texts) other value := by
    rw [countP_eq_one]
    simp only [verdict_iff, ← Bool.not_eq_true]
  simp only [decide_eq_true_eq, all, any, one]
  exact ⟨fun ⟨all, any, one⟩ => ⟨all, any, one⟩, fun ⟨all, any, one⟩ => ⟨all, any, one⟩⟩

theorem validateProperties_decides {fields known : Items} {path : String}
    (unique : (known.map Prod.fst).Nodup)
    (inside : ∀ name inner item, (name, Json.dict inner) ∈ known → fields.get? name = some item →
      ∀ path, Decides (validateJsonSchema texts item inner path)
        (Satisfies (Found texts) (.dict inner) item)) :
    Decides (validateProperties texts fields known path)
      (∀ name inner, known.get? name = some (.dict inner) → ∀ item, fields.get? name = some item →
        Satisfies (Found texts) (.dict inner) item) := by
  have every : Decides (validateProperties texts fields known path)
      (∀ name inner, (name, Json.dict inner) ∈ known → ∀ item, fields.get? name = some item →
        Satisfies (Found texts) (.dict inner) item) := by
    clear unique
    induction known with
    | nil =>
      rw [validateProperties.eq_def]
      exact decides_nil fun name inner none => absurd none List.not_mem_nil
    | cons first rest ih =>
      obtain ⟨name, declared⟩ := first
      have later := ih fun other inner item member =>
        inside other inner item (List.mem_cons_of_mem _ member)
      rw [validateProperties.eq_def]
      dsimp only
      split
      · next inner item present =>
        refine ((inside name inner item List.mem_cons_self present _).joined later).congr ⟨?_, ?_⟩
        · rintro ⟨here, others⟩ other schema member value found
          rcases List.mem_cons.mp member with same | member
          · cases same
            rw [present] at found
            cases found
            exact here
          · exact others other schema member value found
        · exact fun both => ⟨both name inner List.mem_cons_self item present,
            fun other schema member => both other schema (List.mem_cons_of_mem _ member)⟩
      · next unread =>
        refine ((decides_nil trivial).joined later).congr ⟨?_, ?_⟩
        · rintro ⟨-, others⟩ other schema member value found
          rcases List.mem_cons.mp member with same | member
          · cases same
            exact absurd found (unread schema value rfl)
          · exact others other schema member value found
        · exact fun both => ⟨trivial,
            fun other schema member => both other schema (List.mem_cons_of_mem _ member)⟩
  refine every.congr ⟨fun holds name inner declared => holds name inner (mem_of_get? declared),
    fun holds name inner member => holds name inner (get?_of_mem unique member)⟩

theorem validateItems_decides {xs : List Json} {inner : Items} {index : Nat} {path : String}
    (each : ∀ x ∈ xs, ∀ path, Decides (validateJsonSchema texts x inner path)
      (Satisfies (Found texts) (.dict inner) x)) :
    Decides (validateItems texts xs index inner path)
      (∀ x ∈ xs, Satisfies (Found texts) (.dict inner) x) := by
  induction xs generalizing index with
  | nil =>
    rw [validateItems]
    exact decides_nil fun x none => absurd none List.not_mem_nil
  | cons x rest ih =>
    rw [validateItems]
    refine ((each x List.mem_cons_self _).joined (ih fun other member =>
      each other (List.mem_cons_of_mem _ member))).congr ?_
    rw [List.forall_mem_cons]

def validateParts (texts : Texts) (value : Json) (keywords : Items) (path : String) :
    Except SchemaError (List String) :=
  match value with
  | .dict items => validateObject texts items keywords path
  | .list xs => validateArray texts xs keywords path
  | .text s => validateString texts s keywords path
  | .int n => validateNumber texts n keywords path
  | .float q => validateNumber texts q keywords path
  | .null | .bool _ => .ok []

theorem validateKeywords_eq (path : String) : validateKeywords texts value keywords path =
    joined (joined (checkConst value keywords path) (checkEnum value keywords path))
      (joined (validateParts texts value keywords path)
        (joined (validateChoices texts value keywords path "allOf" fun found all => found = all)
          (joined (validateChoices texts value keywords path "anyOf" fun found _ => found ≠ 0)
            (validateChoices texts value keywords path "oneOf" fun found _ => found = 1)))) := by
  rw [validateKeywords.eq_def]
  rfl

structure Inside (texts : Texts) (keywords : Items) (value : Json) : Prop where
  sized : Sized keywords value
  required : Required keywords value
  matched : Matched (Found texts) keywords value
  noExtra : NoExtra keywords value
  below : Below (fun inner item => Satisfies (Found texts) (.dict inner) item) keywords value

theorem validateObject_decides {fields : Items} {path : String}
    (formed : Formed evaluatedKeywords keywords)
    (inside : ∀ known, keywords.get? "properties" = some (.dict known) → ∀ name inner item,
      (name, Json.dict inner) ∈ known → fields.get? name = some item → ∀ path,
        Decides (validateJsonSchema texts item inner path) (Satisfies (Found texts) (.dict inner) item)) :
    Decides (validateObject texts fields keywords path) (Inside texts keywords (.dict fields)) := by
  have required : Decides (checkRequired texts fields keywords path) (Required keywords (.dict fields)) :=
    checkRequired_decides formed fields
  have sized : Decides (checkCount texts fields keywords path) (Sized keywords (.dict fields)) :=
    checkRange_decides formed (by decide) (by decide)
  rw [validateObject.eq_def]
  refine (required.joined ((?nested : Decides _
    ((∀ known, keywords.get? "properties" = some (.dict known) → ∀ name inner,
      Items.get? known name = some (.dict inner) → ∀ item, fields.get? name = some item →
        Satisfies (Found texts) (.dict inner) item) ∧ NoExtra keywords (.dict fields))).joined
    sized)).congr ⟨?_, ?_⟩
  case nested =>
    split
    · next absent =>
      refine (checkAdditional_decides (by rw [absent]; rfl)).congr ⟨fun none => ⟨?_, none⟩, And.right⟩
      intro known found
      rw [absent] at found
      cases found
    · next known found =>
      obtain ⟨_, ⟨⟩, unique⟩ := formed.properties _ found
      refine ((validateProperties_decides unique (inside known found)).joined
        (checkAdditional_decides (by rw [found]; rfl))).congr (and_congr_left fun _ => ⟨?_, ?_⟩)
      · intro holds others again
        rw [found] at again
        cases again
        exact holds
      · exact fun holds => holds known found
    · next declared odd found =>
      obtain ⟨known, same, -⟩ := formed.properties declared found
      exact absurd same (odd known)
  · rintro ⟨required, ⟨properties, noExtra⟩, sized⟩
    have matched : Matched (Found texts) keywords (.dict fields) := by rintro _ _ ⟨⟩
    refine ⟨sized, required, matched, noExtra, ?_, by rintro _ _ _ ⟨⟩⟩
    rintro known found _ ⟨⟩ name inner declared item present
    exact properties known found name inner declared item present
  · rintro ⟨sized, required, -, noExtra, below⟩
    refine ⟨required, ⟨?_, noExtra⟩, sized⟩
    exact fun known found name inner declared item present =>
      below.properties known found fields rfl name inner declared item present

theorem validateArray_decides {xs : List Json} {path : String}
    (formed : Formed evaluatedKeywords keywords)
    (inside : ∀ inner, keywords.get? "items" = some (.dict inner) → ∀ x ∈ xs, ∀ path,
      Decides (validateJsonSchema texts x inner path) (Satisfies (Found texts) (.dict inner) x)) :
    Decides (validateArray texts xs keywords path) (Inside texts keywords (.list xs)) := by
  have sized : Decides (checkLength texts xs keywords path) (Sized keywords (.list xs)) :=
    checkRange_decides formed (by decide) (by decide)
  rw [validateArray.eq_def]
  refine (sized.joined (?nested : Decides _ (∀ inner, keywords.get? "items" = some (.dict inner) →
    ∀ x ∈ xs, Satisfies (Found texts) (.dict inner) x))).congr ⟨?_, ?_⟩
  case nested =>
    split
    · next inner found =>
      refine (validateItems_decides (inside inner found)).congr ⟨?_, fun holds => holds inner found⟩
      intro holds others again
      rw [found] at again
      cases again
      exact holds
    · next absent => exact decides_nil fun inner found => absurd found (absent inner)
  · rintro ⟨sized, elements⟩
    have required : Required keywords (.list xs) := by rintro _ _ ⟨⟩
    have matched : Matched (Found texts) keywords (.list xs) := by rintro _ _ ⟨⟩
    have noExtra : NoExtra keywords (.list xs) := by rintro _ _ ⟨⟩
    refine ⟨sized, required, matched, noExtra, by rintro _ _ _ ⟨⟩, ?_⟩
    rintro inner found _ ⟨⟩ x member
    exact elements inner found x member
  · rintro ⟨sized, -, -, -, below⟩
    exact ⟨sized, fun inner found x member => below.elements inner found xs rfl x member⟩

theorem inside_of_leaf (no_fields : ∀ fields, value ≠ .dict fields) (no_elements : ∀ xs, value ≠ .list xs) :
    Inside texts keywords value ↔ Sized keywords value ∧ Matched (Found texts) keywords value := by
  constructor
  · rintro ⟨sized, -, matched, -, -⟩
    exact ⟨sized, matched⟩
  · rintro ⟨sized, matched⟩
    refine ⟨sized, ?_, matched, ?_, ?_, ?_⟩
    · exact fun fields _ same => absurd same (no_fields fields)
    · exact fun _ fields same => absurd same (no_fields fields)
    · exact fun _ _ fields same => absurd same (no_fields fields)
    · exact fun _ _ xs same => absurd same (no_elements xs)

theorem inside_iff_sized (no_text : ∀ s, value ≠ .text s) (no_fields : ∀ fields, value ≠ .dict fields)
    (no_elements : ∀ xs, value ≠ .list xs) : Inside texts keywords value ↔ Sized keywords value := by
  rw [inside_of_leaf no_fields no_elements]
  exact and_iff_left fun s _ same => absurd same (no_text s)

/-- Where the scorer reads what the schema means, a schema without the check of its type means
the other checks. -/
theorem satisfies_iff_checks (formed : WellFormed evaluatedKeywords (.dict keywords))
    (agrees : Agrees texts keywords value) :
    Satisfies (Found texts) (.dict keywords) value ↔ ChosenHere keywords value ∧
      ConstantHere keywords value ∧ Schema.TypedHere keywords value ∧ Inside texts keywords value ∧
        Combined (fun inner => Satisfies (Found texts) inner value) keywords := by
  have typed : Schema.TypedHere keywords value ↔ Typed keywords value :=
    (Schema.typedHere_iff (wellFormed_dict.mp formed).1).trans (and_iff_left agrees.whole)
  have chosen : Chosen keywords value ↔ ChosenHere keywords value :=
    Schema.chosen_iff.trans (and_iff_left agrees.choices)
  rw [satisfies_split _ formed, typed, ← chosen]
  constructor
  · rintro ⟨⟨⟨typed, chosen, constant, sized, required, matched⟩, noExtra, -⟩, below, combined⟩
    exact ⟨chosen, fun c found => same_of_equal (constant c found), typed,
      ⟨sized, required, matched, noExtra, below⟩, combined⟩
  · rintro ⟨chosen, constant, typed, ⟨sized, required, matched, noExtra, below⟩, combined⟩
    exact ⟨⟨⟨typed, chosen, fun c found => agrees.constant c found (constant c found), sized, required,
      matched⟩, noExtra, agrees.closed⟩, below, combined⟩

theorem validateJsonSchema_decides (keywords : Items) (value : Json) (path : String)
    (formed : WellFormed evaluatedKeywords (.dict keywords))
    (agrees : ∀ visited item, Visits keywords value visited item → Agrees texts visited item) :
    Decides (validateJsonSchema texts value keywords path)
      (Satisfies (Found texts) (.dict keywords) value) := by
  induction n : sizeOf keywords using Nat.strongRecOn generalizing keywords value path with
  | ind n ih =>
    subst n
    obtain ⟨plain, properties_formed, -, items_formed, choices_formed⟩ := wellFormed_dict.mp formed
    have here := agrees keywords value .here
    have counted (keyword : String) (among : keyword ∈ choiceNames) (path : String) :
        ∀ choices, keywords.get? keyword = some (.list choices) →
          countMatches texts value choices path = .ok (choices.countP (verdict texts value)) := by
      intro choices found
      refine countMatches_verdicts (choices_formed keyword among choices found)
        (here.combined keyword among choices found) fun inner member => ?_
      have smaller := sizeOf_choice found member
      rw [Json.dict.sizeOf_spec] at smaller
      exact ih _ (by omega) inner value path (choices_formed keyword among choices found _ member)
        (fun visited item later => agrees visited item (.choice among found member later)) rfl
    have parts : Decides (validateParts texts value keywords path) (Inside texts keywords value) := by
      cases value with
      | null =>
        have leaf : Inside texts keywords .null ↔ True := inside_iff_sized nofun nofun nofun
        exact decides_nil (leaf.mpr trivial)
      | bool b =>
        have leaf : Inside texts keywords (.bool b) ↔ True := inside_iff_sized nofun nofun nofun
        exact decides_nil (leaf.mpr trivial)
      | int n =>
        have leaf : Inside texts keywords (.int n) ↔ Between keywords "minimum" "maximum" n :=
          inside_iff_sized nofun nofun nofun
        exact (checkRange_decides plain (by decide) (by decide)).congr leaf.symm
      | float q =>
        have leaf : Inside texts keywords (.float q) ↔ Between keywords "minimum" "maximum" q :=
          inside_iff_sized nofun nofun nofun
        exact (checkRange_decides plain (by decide) (by decide)).congr leaf.symm
      | text s =>
        have leaf : Inside texts keywords (.text s) ↔ Between keywords "minLength" "maxLength" s.length ∧
            Matched (Found texts) keywords (.text s) := inside_of_leaf nofun nofun
        exact ((checkRange_decides plain (by decide) (by decide)).joined
          (checkPattern_decides plain s)).congr leaf.symm
      | list xs =>
        refine validateArray_decides plain fun inner found x member path => ?_
        have smaller := sizeOf_get? found
        rw [Json.dict.sizeOf_spec] at smaller
        exact ih _ (by omega) inner x path (items_formed _ found)
          (fun visited item later => agrees visited item (.element found member later)) rfl
      | dict fields =>
        refine validateObject_decides plain fun known found name inner item member present path => ?_
        have smaller := (Schema.sizeOf_dict_mem member).trans
          (Schema.sizeOf_dict_mem (mem_of_get? found))
        obtain ⟨_, ⟨⟩, unique⟩ := plain.properties _ found
        have declared := get?_of_mem unique member
        exact ih _ smaller inner item path (properties_formed known found name _ declared)
          (fun visited value later => agrees visited value (.property found declared present later)) rfl
    have rest : Decides (validateKeywords texts value keywords path)
        (ChosenHere keywords value ∧ ConstantHere keywords value ∧ Inside texts keywords value ∧
          Combined (fun inner => Satisfies (Found texts) inner value) keywords) := by
      rw [validateKeywords_eq]
      refine ((checkConst_decides.joined (checkEnum_decides plain)).joined
        (parts.joined ((validateChoices_decides (counted "allOf" (by decide) path)).joined
          ((validateChoices_decides (counted "anyOf" (by decide) path)).joined
            (validateChoices_decides (counted "oneOf" (by decide) path)))))).congr ?_
      rw [combined_iff]
      exact ⟨fun ⟨⟨constant, chosen⟩, inside, all, any, one⟩ => ⟨chosen, constant, inside, all, any, one⟩,
        fun ⟨chosen, constant, inside, all, any, one⟩ => ⟨⟨constant, chosen⟩, inside, all, any, one⟩⟩
    rw [validateJsonSchema.eq_def]
    cases found : keywords.get? "type" with
    | none =>
      refine rest.congr ?_
      rw [satisfies_iff_checks formed here]
      have untyped : Schema.TypedHere keywords value := fun types again => by
        rw [found] at again
        cases again
      simp only [untyped, true_and]
    | some types =>
      have known := plain.types types found
      have typed : Schema.TypedHere keywords value ↔ Schema.matchesType value types = true := by
        unfold Schema.TypedHere
        rw [found]
        simp
      have checked : Decides (do
          if ← matchesType value types then validateKeywords texts value keywords path
          else return [path ++ ": expected type " ++ texts.format types])
          (Satisfies (Found texts) (.dict keywords) value) := by
        rw [matchesType_eq known, satisfies_iff_checks formed here, typed]
        cases Schema.matchesType value types with
        | true => exact rest.congr (by simp)
        | false => exact decides_error (by simp)
      cases types with
      | null =>
        obtain ⟨name, -, impossible⟩ := known _ (List.mem_singleton_self _)
        cases impossible
      | _ => exact checked

end Verdicts

section OneOrTrue

def constantOne : Items := [("const", .int 1)]

def plainTexts : Texts where
  format _ := ""
  formatList _ := ""
  formatScore _ := ""
  dumps _ := ""
  casefold := id
  search _ _ := none

theorem constantOne_get? {keyword : String} {held : Json}
    (found : Items.get? constantOne keyword = some held) : keyword = "const" ∧ held = .int 1 := by
  have member := mem_of_get? found
  rw [constantOne, List.mem_singleton, Prod.mk.injEq] at member
  exact member

theorem constantOne_formed : WellFormed evaluatedKeywords (.dict constantOne) := by
  have nothing {keyword : String} {held : Json} {P : Prop} (other : keyword ≠ "const")
      (found : Items.get? constantOne keyword = some held) : P :=
    absurd (constantOne_get? found).1 other
  rw [wellFormed_dict]
  refine ⟨⟨?_, fun _ => nothing (by decide), fun _ => nothing (by decide),
    fun _ => nothing (by decide), fun _ => nothing (by decide), ?_, ?_, fun _ => nothing (by decide)⟩,
    fun _ => nothing (by decide), fun _ => nothing (by decide), fun _ => nothing (by decide), ?_⟩
  · intro item member
    rw [List.mem_singleton.mp member]
    decide
  · rintro keyword among choices found
    exact nothing (by rintro rfl; exact absurd among (by decide)) found
  · rintro keyword among bound found
    exact nothing (by rintro rfl; exact absurd among (by decide)) found
  · rintro keyword among choices found
    exact nothing (by rintro rfl; exact absurd among (by decide)) found

theorem constantOne_agrees {visited : Items} {item : Json}
    (visits : Visits constantOne (.int 1) visited item) : Agrees plainTexts visited item := by
  have nothing {keyword : String} {held : Json} {P : Prop} (other : keyword ≠ "const")
      (found : Items.get? constantOne keyword = some held) : P :=
    absurd (constantOne_get? found).1 other
  cases visits with
  | here =>
    refine ⟨?_, ?_, ?_, ⟨?_, ?_, ?_⟩, ?_⟩
    · rintro ⟨types, q, found, -⟩
      exact nothing (by decide) found
    · intro constant found _
      rw [(constantOne_get? found).2]
      decide
    · rintro ⟨choices, found, -⟩
      exact nothing (by decide) found
    · exact fun known found => nothing (by decide) found
    · exact fun inner found => nothing (by decide) found
    · exact fun found => nothing (by decide) found
    · rintro keyword among choices found
      exact nothing (by rintro rfl; exact absurd among (by decide)) found
  | choice among found member later =>
    exact nothing (by rintro rfl; exact absurd among (by decide)) found

end OneOrTrue

end Taroai.Evaluation
