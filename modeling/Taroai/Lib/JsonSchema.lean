import Taroai.Lib.Json

/-! What a JSON schema means. Numbers are equal by their values and booleans are not numbers; a
number without a fraction is an integer. A schema is a dictionary of keywords or a boolean. The
search for a pattern is a parameter. -/

namespace Taroai.JsonSchema

open Json

def numeric? : Json → Option Rat
  | .int n => some n
  | .float q => some q
  | .null | .bool _ | .text _ | .list _ | .dict _ => none

mutual

def equal : Json → Json → Bool
  | .null, b => match b with
    | .null => true
    | _ => false
  | .bool a, b => match b with
    | .bool c => a = c
    | _ => false
  | .text s, b => match b with
    | .text t => s = t
    | _ => false
  | .list xs, b => match b with
    | .list ys => equalAll xs ys
    | _ => false
  | .dict items, b => match b with
    | .dict others => decide (items.length = others.length) && equalItems items others
    | _ => false
  | .int n, b => numeric? b = some (n : Rat)
  | .float q, b => numeric? b = some q

def equalAll : List Json → List Json → Bool
  | [], ys => ys.isEmpty
  | x :: xs, ys => match ys with
    | [] => false
    | y :: ys => equal x y && equalAll xs ys

def equalItems : List (String × Json) → Items → Bool
  | [], _ => true
  | (key, value) :: rest, others =>
    (others.get? key).any (fun other => equal value other) && equalItems rest others

end

theorem number_of_numeric {x : Json} {q : Rat} (numeric : numeric? x = some q) :
    x.number? = some q := by
  cases x <;> first | exact numeric | cases numeric

mutual

theorem same_of_equal : ∀ {a b : Json}, equal a b = true → same a b = true
  | .null, b, h => by
    cases b with
    | null => rfl
    | _ => cases h
  | .bool a, b, h => by
    cases b with
    | bool c =>
      obtain rfl := of_decide_eq_true h
      exact decide_eq_true rfl
    | _ => cases h
  | .text s, b, h => by
    cases b <;> exact h
  | .int n, b, h => decide_eq_true (number_of_numeric (of_decide_eq_true h))
  | .float q, b, h => decide_eq_true (number_of_numeric (of_decide_eq_true h))
  | .list xs, b, h => by
    cases b <;> first | exact sameAll_of_equalAll h | cases h
  | .dict items, b, h => by
    cases b with
    | dict others =>
      unfold equal at h
      rw [Bool.and_eq_true] at h
      unfold same
      rw [Bool.and_eq_true]
      exact ⟨h.1, sameItems_of_equalItems h.2⟩
    | _ => cases h

theorem sameAll_of_equalAll : ∀ {xs ys : List Json}, equalAll xs ys = true → sameAll xs ys = true
  | [], _, h => h
  | x :: xs, ys, h => by
    cases ys with
    | nil => cases h
    | cons y ys =>
      unfold equalAll at h
      rw [Bool.and_eq_true] at h
      unfold sameAll
      rw [Bool.and_eq_true]
      exact ⟨same_of_equal h.1, sameAll_of_equalAll h.2⟩

theorem sameItems_of_equalItems : ∀ {items : List (String × Json)} {others : Items},
    equalItems items others = true → sameItems items others = true
  | [], _, _ => rfl
  | (key, value) :: rest, others, h => by
    unfold equalItems at h
    rw [Bool.and_eq_true, Option.any_eq_true] at h
    obtain ⟨⟨other, found, equals⟩, later⟩ := h
    unfold sameItems
    rw [Bool.and_eq_true, Option.any_eq_true]
    exact ⟨⟨other, found, same_of_equal equals⟩, sameItems_of_equalItems later⟩

end

section Keywords

variable (search : String → String → Prop) (keywords : Items) (value : Json)

def typeNames : List String :=
  ["object", "array", "string", "integer", "number", "boolean", "null"]

def hasType (value : Json) (name : String) : Bool :=
  match value with
  | .null => name = "null"
  | .bool _ => name = "boolean"
  | .int _ => name = "integer" || name = "number"
  | .float q => name = "number" || name = "integer" && decide (q.den = 1)
  | .text _ => name = "string"
  | .list _ => name = "array"
  | .dict _ => name = "object"

/-- The types that the keyword `type` lists. -/
def listedTypes : Json → List Json
  | .list names => names
  | one => [one]

def Typed : Prop :=
  ∀ types, keywords.get? "type" = some types →
    ∃ name, .text name ∈ listedTypes types ∧ hasType value name = true

def Chosen : Prop :=
  ∀ choices, keywords.get? "enum" = some (.list choices) → ∃ x ∈ choices, equal x value = true

def Constant : Prop := ∀ constant, keywords.get? "const" = some constant → equal value constant = true

def Limit (keyword : String) (kept : Rat → Prop) : Prop :=
  ∀ bound limit, keywords.get? keyword = some bound → numeric? bound = some limit → kept limit

def Between (lower upper : String) (q : Rat) : Prop :=
  Limit keywords lower (· ≤ q) ∧ Limit keywords upper (q ≤ ·)

def Sized : Prop :=
  match value with
  | .list xs => Between keywords "minItems" "maxItems" xs.length
  | .dict fields => Between keywords "minProperties" "maxProperties" fields.length
  | .text s => Between keywords "minLength" "maxLength" s.length
  | .int n => Between keywords "minimum" "maximum" n
  | .float q => Between keywords "minimum" "maximum" q
  | .null | .bool _ => True

def Required : Prop :=
  ∀ fields keys, value = .dict fields → keywords.get? "required" = some (.list keys) →
    ∀ name, .text name ∈ keys → (Items.get? fields name).isSome

def Matched : Prop :=
  ∀ s pattern, value = .text s → keywords.get? "pattern" = some (.text pattern) → search pattern s

def Extra (name : String) : Prop :=
  ∀ known, keywords.get? "properties" = some (.dict known) → Items.get? known name = none

structure Plain : Prop where
  typed : Typed keywords value
  chosen : Chosen keywords value
  constant : Constant keywords value
  sized : Sized keywords value
  required : Required keywords value
  matched : Matched search keywords value

end Keywords

theorem get?_of_mem {items : Items} {key : String} {value : Json}
    (unique : (items.map Prod.fst).Nodup) (member : (key, value) ∈ items) :
    items.get? key = some value := by
  cases found : items.get? key with
  | none =>
    unfold Items.get? at found
    rw [Option.map_eq_none_iff, List.find?_eq_none] at found
    exact absurd (decide_eq_true rfl) (found _ member)
  | some other =>
    have same := List.inj_on_of_nodup_map unique (mem_of_get? found) member rfl
    rw [(Prod.mk.inj same).2]

theorem sizeOf_get? {items : Items} {value : Json} {key : String}
    (found : items.get? key = some value) : sizeOf value < sizeOf items := by
  have := List.sizeOf_lt_of_mem (mem_of_get? found)
  simp only [Prod.mk.sizeOf_spec] at this
  omega

theorem sizeOf_choice {items : Items} {choices : List Json} {inner : Json} {key : String}
    (found : items.get? key = some (.list choices)) (member : inner ∈ choices) :
    sizeOf inner < sizeOf items := by
  have := List.sizeOf_lt_of_mem member
  have := sizeOf_get? found
  simp only [Json.list.sizeOf_spec] at this
  omega

theorem sizeOf_declared {items known : Items} {name key : String} {inner : Json}
    (found : items.get? key = some (.dict known)) (declared : known.get? name = some inner) :
    sizeOf inner < sizeOf items := by
  have := sizeOf_get? declared
  have := sizeOf_get? found
  simp only [Json.dict.sizeOf_spec] at this
  omega

def Satisfies (search : String → String → Prop) : Json → Json → Prop
  | .bool allowed, _ => allowed = true
  | .dict keywords, value =>
    Plain search keywords value ∧
    (∀ known, ∀ _found : Items.get? keywords "properties" = some (.dict known),
      ∀ fields name inner item, value = .dict fields → ∀ _declared : Items.get? known name = some inner,
        Items.get? fields name = some item → Satisfies search inner item) ∧
    (∀ inner, ∀ _found : Items.get? keywords "additionalProperties" = some inner,
      ∀ fields, value = .dict fields → ∀ field ∈ fields, Extra keywords field.1 →
        Satisfies search inner field.2) ∧
    (∀ inner, ∀ _found : Items.get? keywords "items" = some inner,
      ∀ xs, value = .list xs → ∀ x ∈ xs, Satisfies search inner x) ∧
    (∀ choices, ∀ _found : Items.get? keywords "allOf" = some (.list choices),
      ∀ inner, ∀ _member : inner ∈ choices, Satisfies search inner value) ∧
    (∀ choices, ∀ _found : Items.get? keywords "anyOf" = some (.list choices),
      ∃ inner, ∃ _member : inner ∈ choices, Satisfies search inner value) ∧
    (∀ choices, ∀ _found : Items.get? keywords "oneOf" = some (.list choices),
      ∃ before inner after, ∃ _listed : choices = before ++ inner :: after,
        Satisfies search inner value ∧
          ∀ other, ∀ _member : other ∈ before ++ after, ¬Satisfies search other value)
  | _, _ => False
termination_by schema => sizeOf schema
decreasing_by
  all_goals simp only [Json.dict.sizeOf_spec]
  · have := sizeOf_declared _found _declared
    omega
  · have := sizeOf_get? _found
    omega
  · have := sizeOf_get? _found
    omega
  · have := sizeOf_choice _found _member
    omega
  · have := sizeOf_choice _found _member
    omega
  · have := sizeOf_choice _found (_listed ▸ List.mem_append_right before List.mem_cons_self)
    omega
  · have := sizeOf_choice _found (_listed ▸ (List.sublist_cons_self inner after).append_left before
      |>.subset _member)
    omega

section Formed

def choiceNames : List String := ["allOf", "anyOf", "oneOf"]

def boundNames : List String :=
  ["minItems", "maxItems", "minProperties", "maxProperties", "minLength", "maxLength", "minimum",
    "maximum"]

structure Formed (allowed : List String) (keywords : Items) : Prop where
  allowed : ∀ item ∈ keywords, item.1 ∈ allowed
  types : ∀ types, keywords.get? "type" = some types →
    ∀ one ∈ listedTypes types, ∃ name ∈ typeNames, one = .text name
  enum : ∀ choices, keywords.get? "enum" = some choices → ∃ xs, choices = .list xs
  required : ∀ keys, keywords.get? "required" = some keys →
    ∃ names : List String, keys = .list (names.map .text)
  properties : ∀ declared, keywords.get? "properties" = some declared →
    ∃ known : Items, declared = .dict known ∧ (known.map Prod.fst).Nodup
  choices : ∀ keyword ∈ choiceNames, ∀ choices, keywords.get? keyword = some choices →
    ∃ xs, choices = .list xs
  bounds : ∀ keyword ∈ boundNames, ∀ bound, keywords.get? keyword = some bound →
    ∃ q, numeric? bound = some q
  pattern : ∀ pattern, keywords.get? "pattern" = some pattern → ∃ s, pattern = .text s

def WellFormed (allowed : List String) : Json → Prop
  | .bool _ => True
  | .dict keywords =>
    Formed allowed keywords ∧
    (∀ known, ∀ _found : Items.get? keywords "properties" = some (.dict known),
      ∀ name inner, ∀ _declared : Items.get? known name = some inner, WellFormed allowed inner) ∧
    (∀ inner, ∀ _found : Items.get? keywords "additionalProperties" = some inner,
      WellFormed allowed inner) ∧
    (∀ inner, ∀ _found : Items.get? keywords "items" = some inner, WellFormed allowed inner) ∧
    (∀ keyword ∈ choiceNames, ∀ choices, ∀ _found : Items.get? keywords keyword = some (.list choices),
      ∀ inner, ∀ _member : inner ∈ choices, WellFormed allowed inner)
  | _ => False
termination_by schema => sizeOf schema
decreasing_by
  all_goals simp only [Json.dict.sizeOf_spec]
  · have := sizeOf_declared _found _declared
    omega
  · have := sizeOf_get? _found
    omega
  · have := sizeOf_get? _found
    omega
  · have := sizeOf_choice _found _member
    omega

end Formed

/-- The sub-schemas that are read, each with the value that it is read against. -/
inductive Visits : Items → Json → Items → Json → Prop
  | here {keywords : Items} {value : Json} : Visits keywords value keywords value
  | property {keywords known fields inner visited : Items} {name : String} {item value : Json}
    (found : keywords.get? "properties" = some (.dict known))
    (declared : known.get? name = some (.dict inner)) (present : fields.get? name = some item)
    (later : Visits inner item visited value) : Visits keywords (.dict fields) visited value
  | element {keywords inner visited : Items} {xs : List Json} {x value : Json}
    (found : keywords.get? "items" = some (.dict inner)) (member : x ∈ xs)
    (later : Visits inner x visited value) : Visits keywords (.list xs) visited value
  | choice {keywords inner visited : Items} {choices : List Json} {keyword : String}
    {value other : Json} (among : keyword ∈ choiceNames)
    (found : keywords.get? keyword = some (.list choices)) (member : .dict inner ∈ choices)
    (later : Visits inner value visited other) : Visits keywords value visited other

section Positions

variable (search : String → String → Prop)

def NoExtra (keywords : Items) (value : Json) : Prop :=
  keywords.get? "additionalProperties" = some (.bool false) →
    ∀ fields, value = .dict fields → ∀ field ∈ fields, ¬Extra keywords field.1

/-- What is asked of a value beyond keywords and dictionaries of them in `properties` and `items`. -/
structure Closed (keywords : Items) (value : Json) : Prop where
  properties : ∀ known, keywords.get? "properties" = some (.dict known) → ∀ fields,
    value = .dict fields → ∀ name, Items.get? known name = some (.bool false) →
      Items.get? fields name = none
  additional : ∀ inner, keywords.get? "additionalProperties" = some (.dict inner) → ∀ fields,
    value = .dict fields → ∀ field ∈ fields, Extra keywords field.1 →
      Satisfies search (.dict inner) field.2
  elements : keywords.get? "items" = some (.bool false) → ∀ xs, value = .list xs → xs = []

/-- Both kinds of sub-schemas of a predicate on schemas and values. -/
structure Below (P : Items → Json → Prop) (keywords : Items) (value : Json) : Prop where
  properties : ∀ known, keywords.get? "properties" = some (.dict known) → ∀ fields,
    value = .dict fields → ∀ name inner, Items.get? known name = some (.dict inner) →
      ∀ item, Items.get? fields name = some item → P inner item
  elements : ∀ inner, keywords.get? "items" = some (.dict inner) → ∀ xs, value = .list xs →
    ∀ x ∈ xs, P inner x

structure Combined (P : Json → Prop) (keywords : Items) : Prop where
  allOf : ∀ choices, keywords.get? "allOf" = some (.list choices) → ∀ inner ∈ choices, P inner
  anyOf : ∀ choices, keywords.get? "anyOf" = some (.list choices) → ∃ inner ∈ choices, P inner
  oneOf : ∀ choices, keywords.get? "oneOf" = some (.list choices) →
    ∃ before inner after, choices = before ++ inner :: after ∧ P inner ∧
      ∀ other ∈ before ++ after, ¬P other

variable {allowed : List String} {keywords : Items} {value : Json}

theorem wellFormed_dict : WellFormed allowed (.dict keywords) ↔
    Formed allowed keywords ∧
    (∀ known, keywords.get? "properties" = some (.dict known) →
      ∀ name inner, Items.get? known name = some inner → WellFormed allowed inner) ∧
    (∀ inner, keywords.get? "additionalProperties" = some inner → WellFormed allowed inner) ∧
    (∀ inner, keywords.get? "items" = some inner → WellFormed allowed inner) ∧
    ∀ keyword ∈ choiceNames, ∀ choices, keywords.get? keyword = some (.list choices) →
      ∀ inner ∈ choices, WellFormed allowed inner := by
  rw [WellFormed]

theorem wellFormed_cases {schema : Json} (formed : WellFormed allowed schema) :
    (∃ b, schema = .bool b) ∨ ∃ keywords, schema = .dict keywords := by
  cases schema with
  | bool b => exact .inl ⟨b, rfl⟩
  | dict keywords => exact .inr ⟨keywords, rfl⟩
  | _ =>
    unfold WellFormed at formed
    exact formed.elim

/-- A predicate that says something of each schema and goes down to the sub-schemas says it at
every position. -/
theorem forall_visits_iff {P L : Items → Json → Prop}
    (unbranched : ∀ keyword ∈ choiceNames, keyword ∉ allowed)
    (step : ∀ keywords value, WellFormed allowed (.dict keywords) →
      (P keywords value ↔ L keywords value ∧ Below P keywords value))
    (keywords : Items) (value : Json) (formed : WellFormed allowed (.dict keywords)) :
    P keywords value ↔ ∀ visited item, Visits keywords value visited item → L visited item := by
  induction n : sizeOf keywords using Nat.strongRecOn generalizing keywords value with
  | ind n ih =>
    subst n
    obtain ⟨plain, properties, -, elements, -⟩ := wellFormed_dict.mp formed
    rw [step keywords value formed]
    constructor
    · rintro ⟨here, below⟩ visited item visits
      cases visits with
      | here => exact here
      | property found declared present later =>
        have smaller := sizeOf_declared found declared
        rw [Json.dict.sizeOf_spec] at smaller
        exact (ih _ (by omega) _ _ (properties _ found _ _ declared) rfl).mp
          (below.properties _ found _ rfl _ _ declared _ present) _ _ later
      | element found member later =>
        have smaller := sizeOf_get? found
        rw [Json.dict.sizeOf_spec] at smaller
        exact (ih _ (by omega) _ _ (elements _ found) rfl).mp
          (below.elements _ found _ rfl _ member) _ _ later
      | choice among found member later =>
        exact absurd (plain.allowed _ (mem_of_get? found)) (unbranched _ among)
    · intro everywhere
      refine ⟨everywhere _ _ .here, ?_, ?_⟩
      · rintro known found fields rfl name inner declared item present
        have smaller := sizeOf_declared found declared
        rw [Json.dict.sizeOf_spec] at smaller
        exact (ih _ (by omega) _ _ (properties _ found _ _ declared) rfl).mpr fun _ _ later =>
          everywhere _ _ (.property found declared present later)
      · rintro inner found xs rfl x member
        have smaller := sizeOf_get? found
        rw [Json.dict.sizeOf_spec] at smaller
        exact (ih _ (by omega) _ _ (elements _ found) rfl).mpr fun _ _ later =>
          everywhere _ _ (.element found member later)

theorem satisfies_dict : Satisfies search (.dict keywords) value ↔
    Plain search keywords value ∧
    (∀ known, keywords.get? "properties" = some (.dict known) → ∀ fields name inner item,
      value = .dict fields → Items.get? known name = some inner →
        Items.get? fields name = some item → Satisfies search inner item) ∧
    (∀ inner, keywords.get? "additionalProperties" = some inner → ∀ fields, value = .dict fields →
      ∀ field ∈ fields, Extra keywords field.1 → Satisfies search inner field.2) ∧
    (∀ inner, keywords.get? "items" = some inner → ∀ xs, value = .list xs →
      ∀ x ∈ xs, Satisfies search inner x) ∧
    (∀ choices, keywords.get? "allOf" = some (.list choices) →
      ∀ inner ∈ choices, Satisfies search inner value) ∧
    (∀ choices, keywords.get? "anyOf" = some (.list choices) →
      ∃ inner ∈ choices, Satisfies search inner value) ∧
    ∀ choices, keywords.get? "oneOf" = some (.list choices) →
      ∃ before inner after, choices = before ++ inner :: after ∧ Satisfies search inner value ∧
        ∀ other ∈ before ++ after, ¬Satisfies search other value := by
  rw [Satisfies]
  simp only [exists_prop]

theorem satisfies_bool {b : Bool} : Satisfies search (.bool b) value ↔ b = true := by
  rw [Satisfies]

theorem satisfies_split (formed : WellFormed allowed (.dict keywords)) :
    Satisfies search (.dict keywords) value ↔
      (Plain search keywords value ∧ NoExtra keywords value ∧ Closed search keywords value) ∧
        Below (fun inner item => Satisfies search (.dict inner) item) keywords value ∧
        Combined (fun inner => Satisfies search inner value) keywords := by
  obtain ⟨-, properties, additional, elements, -⟩ := wellFormed_dict.mp formed
  rw [satisfies_dict]
  constructor
  · rintro ⟨local_, inside, extra, each, all, any, one⟩
    refine ⟨⟨local_, ?_, ?_, ?_, ?_⟩, ⟨?_, ?_⟩, all, any, one⟩
    · rintro closed fields rfl field member undeclared
      have refused := extra _ closed fields rfl field member undeclared
      rw [satisfies_bool] at refused
      cases refused
    · rintro known found fields rfl name declared
      by_contra present
      obtain ⟨item, present⟩ := Option.ne_none_iff_exists'.mp present
      have refused := inside known found fields name _ item rfl declared present
      rw [satisfies_bool] at refused
      cases refused
    · exact fun inner found => extra (.dict inner) found
    · rintro found xs rfl
      cases xs with
      | nil => rfl
      | cons x xs =>
        have refused := each _ found _ rfl x List.mem_cons_self
        rw [satisfies_bool] at refused
        cases refused
    · rintro known found fields rfl name inner declared item present
      exact inside known found fields name _ item rfl declared present
    · exact fun inner found => each (.dict inner) found
  · rintro ⟨⟨local_, noExtra, closed⟩, below, all, any, one⟩
    refine ⟨local_, ?_, ?_, ?_, all, any, one⟩
    · rintro known found fields name inner item rfl declared present
      rcases wellFormed_cases (properties known found name inner declared) with ⟨b, rfl⟩ | ⟨keys, rfl⟩
      · cases b with
        | true => exact (satisfies_bool search).mpr rfl
        | false =>
          rw [closed.properties known found fields rfl name declared] at present
          cases present
      · exact below.properties known found fields rfl name keys declared item present
    · rintro inner found fields rfl field member undeclared
      rcases wellFormed_cases (additional inner found) with ⟨b, rfl⟩ | ⟨keys, rfl⟩
      · cases b with
        | true => exact (satisfies_bool search).mpr rfl
        | false => exact absurd undeclared (noExtra found fields rfl field member)
      · exact closed.additional keys found fields rfl field member undeclared
    · rintro inner found xs rfl x member
      rcases wellFormed_cases (elements inner found) with ⟨b, rfl⟩ | ⟨keys, rfl⟩
      · cases b with
        | true => exact (satisfies_bool search).mpr rfl
        | false =>
          rw [closed.elements found xs rfl] at member
          cases member
      · exact below.elements keys found xs rfl x member

theorem satisfies_step (unbranched : ∀ keyword ∈ choiceNames, keyword ∉ allowed)
    (formed : WellFormed allowed (.dict keywords)) :
    Satisfies search (.dict keywords) value ↔
      (Plain search keywords value ∧ NoExtra keywords value ∧ Closed search keywords value) ∧
        Below (fun inner item => Satisfies search (.dict inner) item) keywords value := by
  have absent : ∀ keyword ∈ choiceNames, ∀ choices, keywords.get? keyword ≠ some choices :=
    fun keyword among choices found => unbranched keyword among
      ((wellFormed_dict.mp formed).1.allowed _ (mem_of_get? found))
  have combined : Combined (fun inner => Satisfies search inner value) keywords :=
    ⟨fun choices found => absurd found (absent "allOf" (by decide) _),
      fun choices found => absurd found (absent "anyOf" (by decide) _),
      fun choices found => absurd found (absent "oneOf" (by decide) _)⟩
  rw [satisfies_split search formed]
  simp only [combined, and_true]

theorem satisfies_iff (unbranched : ∀ keyword ∈ choiceNames, keyword ∉ allowed)
    (formed : WellFormed allowed (.dict keywords)) :
    Satisfies search (.dict keywords) value ↔ ∀ visited item, Visits keywords value visited item →
      Plain search visited item ∧ NoExtra visited item ∧ Closed search visited item :=
  forall_visits_iff unbranched (fun _ _ inner_formed => satisfies_step search unbranched inner_formed)
    keywords value formed

end Positions

end Taroai.JsonSchema
