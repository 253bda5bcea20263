import Taroai.Governance.Schema
import Taroai.Lib.JsonSchema

/-! What `JsonSchemaValidator` accepts beside what the schema means. The validator compares with
Python's equality, takes no float for an integer and looks at no sub-schema that is a boolean
and at none of `additionalProperties`. -/

namespace Taroai.Governance.Schema

open Json JsonSchema

def supportedKeywords : List String :=
  ["type", "enum", "required", "properties", "additionalProperties", "items", "minItems",
    "maxItems", "minLength", "maxLength", "minimum", "maximum"]

/-- What is asked of a value alike by the validator and by the meaning of the schema. -/
structure Kept (keywords : Items) (value : Json) : Prop where
  sized : Sized keywords value
  required : Required keywords value
  noExtra : NoExtra keywords value

def TypedHere (keywords : Items) (value : Json) : Prop :=
  ∀ types, keywords.get? "type" = some types → matchesType value types = true

def ChosenHere (keywords : Items) (value : Json) : Prop :=
  ∀ choices, keywords.get? "enum" = some (.list choices) → ∃ x ∈ choices, x.same value = true

structure Checked (keywords : Items) (value : Json) : Prop where
  typed : TypedHere keywords value
  chosen : ChosenHere keywords value
  kept : Kept keywords value

section Formed

variable {keywords : Items} {value : Json} {allowed : List String}

theorem absent_of_not_allowed (formed : Formed allowed keywords) {keyword : String}
    (unknown : keyword ∉ allowed) : keywords.get? keyword = none := by
  by_contra some_value
  obtain ⟨v, found⟩ := Option.ne_none_iff_exists'.mp some_value
  exact unknown (formed.allowed _ (mem_of_get? found))

theorem within_iff_limit (formed : Formed allowed keywords) {keyword : String}
    (bounds : keyword ∈ boundNames) (kept : Rat → Prop) :
    Within keywords keyword kept ↔ Limit keywords keyword kept := by
  constructor
  · intro within bound limit found numeric
    exact within bound limit found (number_of_numeric numeric)
  · intro limit bound q found number
    obtain ⟨r, numeric⟩ := formed.bounds keyword bounds bound found
    have same := number_of_numeric numeric
    rw [number] at same
    cases same
    exact limit bound q found numeric

theorem limit_of_absent {keyword : String} (absent : keywords.get? keyword = none)
    (kept : Rat → Prop) : Limit keywords keyword kept := by
  intro bound limit found
  rw [absent] at found
  cases found

theorem between_iff (formed : Formed allowed keywords) {lower upper : String}
    (low : lower ∈ boundNames) (high : upper ∈ boundNames) (q : Rat) :
    (Within keywords lower (· ≤ q) ∧ Within keywords upper (q ≤ ·)) ↔
      Between keywords lower upper q := by
  rw [within_iff_limit formed low, within_iff_limit formed high]
  exact Iff.rfl

theorem mem_iterate_texts {names : List String} {fields : Items} :
    (∃ keys, iterate (.list (names.map Json.text)) = .ok keys ∧
      ∀ key ∈ keys, isIn key (.dict fields) = .ok true) ↔
      ∀ name ∈ names, (Items.get? fields name).isSome := by
  constructor
  · rintro ⟨keys, listed, present⟩ name member
    cases listed
    have found := present (.text name) (List.mem_map_of_mem member)
    exact Except.ok.inj found
  · intro present
    refine ⟨_, rfl, fun key member => ?_⟩
    obtain ⟨name, inside, rfl⟩ := List.mem_map.mp member
    exact congrArg Except.ok (present name inside)

theorem required_iff (formed : Formed allowed keywords) (fields : Items) :
    (∃ keys, iterate ((keywords.get? "required").getD (.list [])) = .ok keys ∧
      ∀ key ∈ keys, isIn key (.dict fields) = .ok true) ↔ Required keywords (.dict fields) := by
  cases found : keywords.get? "required" with
  | none =>
    constructor
    · intro _ others keys _ listed
      rw [found] at listed
      cases listed
    · intro _
      exact ⟨[], rfl, fun key none => absurd none List.not_mem_nil⟩
  | some keys =>
    obtain ⟨names, rfl⟩ := formed.required keys found
    rw [Option.getD_some, mem_iterate_texts]
    constructor
    · rintro present _ keys ⟨⟩ listed name member
      rw [found] at listed
      cases listed
      obtain ⟨same, inside, ⟨⟩⟩ := List.mem_map.mp member
      exact present _ inside
    · intro required name member
      exact required fields _ rfl found name (List.mem_map_of_mem member)

theorem extra_iff (field : String × Json) :
    ¬Extra keywords field.1 ↔ ∃ known, keywords.get? "properties" = some (.dict known) ∧
      (Items.get? known field.1).isSome := by
  unfold Extra
  push Not
  simp only [Option.isSome_iff_ne_none]

theorem noExtra_iff (fields : Items) : NoExtra keywords (.dict fields) ↔
    (keywords.get? "additionalProperties" = some (.bool false) → ∀ item ∈ fields,
      ∃ known, keywords.get? "properties" = some (.dict known) ∧
        (Items.get? known item.1).isSome) := by
  unfold NoExtra
  simp only [extra_iff]
  constructor
  · intro none closed item member
    exact none closed fields rfl item member
  · rintro declared closed _ ⟨⟩ item member
    exact declared closed item member

theorem sized_iff (formed : Formed supportedKeywords keywords) : Sized keywords value ↔
    (∀ xs, value = .list xs → Within keywords "minItems" (· ≤ (xs.length : Rat)) ∧
      Within keywords "maxItems" ((xs.length : Rat) ≤ ·)) ∧
    (∀ s, value = .text s → Within keywords "minLength" (· ≤ (s.length : Rat)) ∧
      Within keywords "maxLength" ((s.length : Rat) ≤ ·)) ∧
    ∀ q, isNumber value = true → value.number? = some q →
      Within keywords "minimum" (· ≤ q) ∧ Within keywords "maximum" (q ≤ ·) := by
  have fewest : keywords.get? "minProperties" = none := absent_of_not_allowed formed (by decide)
  have most : keywords.get? "maxProperties" = none := absent_of_not_allowed formed (by decide)
  have counted (q : Rat) : (Within keywords "minItems" (· ≤ q) ∧ Within keywords "maxItems" (q ≤ ·)) ↔
      Between keywords "minItems" "maxItems" q := between_iff formed (by decide) (by decide) q
  have long (q : Rat) : (Within keywords "minLength" (· ≤ q) ∧ Within keywords "maxLength" (q ≤ ·)) ↔
      Between keywords "minLength" "maxLength" q := between_iff formed (by decide) (by decide) q
  have large (q : Rat) : (Within keywords "minimum" (· ≤ q) ∧ Within keywords "maximum" (q ≤ ·)) ↔
      Between keywords "minimum" "maximum" q := between_iff formed (by decide) (by decide) q
  unfold Sized
  cases value with
  | list xs => simp [counted, isNumber]
  | text s => simp [long, isNumber]
  | int n => simp [large, isNumber, number?]
  | float q => simp [large, isNumber, number?]
  | dict fields => simp [Between, limit_of_absent fewest, limit_of_absent most, isNumber]
  | null => simp [isNumber]
  | bool b => simp [isNumber]

theorem conforms_step (formed : WellFormed supportedKeywords (.dict keywords)) :
    Conforms value keywords ↔ Checked keywords value ∧
      Below (fun inner item => Conforms item inner) keywords value := by
  obtain ⟨plain, -⟩ := wellFormed_dict.mp formed
  have sizes : Sized keywords value ↔ _ := sized_iff plain
  constructor
  · rintro ⟨typed, chosen, required, properties, additional, elements, count, length, size⟩
    refine ⟨⟨?_, ?_, sizes.mpr ⟨count, length, size⟩, ?_, ?_⟩, ?_, ?_⟩
    · intro types found
      rcases typed types found with rfl | matched
      · obtain ⟨name, -, impossible⟩ := plain.types _ found _ List.mem_cons_self
        cases impossible
      · exact matched
    · intro choices found
      exact List.any_eq_true.mp (Except.ok.inj (chosen _ found))
    · rintro fields keys rfl found
      exact (required_iff plain fields).mp (required fields rfl) fields keys rfl found
    · intro closed fields same field member
      subst same
      exact (noExtra_iff fields).mpr (fun closed => additional fields rfl closed) closed fields rfl
        field member
    · rintro known found fields rfl name inner declared item present
      exact properties fields known name inner item rfl found (mem_of_get? declared) present
    · rintro inner found xs rfl x member
      exact elements xs inner rfl found x member
  · rintro ⟨⟨typed, chosen, sized, required, noExtra⟩, below⟩
    obtain ⟨count, length, size⟩ := sizes.mp sized
    refine ⟨fun types found => .inr (typed types found), ?_, ?_, ?_, ?_, ?_, count, length, size⟩
    · intro choices found
      obtain ⟨xs, rfl⟩ := plain.enum choices found
      exact congrArg Except.ok (List.any_eq_true.mpr (chosen xs found))
    · rintro fields rfl
      exact (required_iff plain fields).mpr required
    · rintro fields known name inner item rfl found member present
      obtain ⟨_, ⟨⟩, unique⟩ := plain.properties _ found
      exact below.properties known found fields rfl name inner (get?_of_mem unique member) item present
    · rintro fields rfl closed
      exact (noExtra_iff fields).mp noExtra closed
    · rintro xs inner rfl found x member
      exact below.elements inner found xs rfl x member

end Formed

section Validator

variable {format : Json → String} {keywords : Items} {value : Json} {path : String}

theorem checkEnum_ok (chosen : ∀ choices, keywords.get? "enum" = some choices →
    isIn value choices = .ok true) : checkEnum format value keywords path = .ok [] := by
  unfold checkEnum
  cases found : keywords.get? "enum" with
  | none => rfl
  | some choices =>
    dsimp only
    rw [chosen choices found]
    rfl

theorem checkBound_ok {keyword : String} {breaks : Rat → Bool} {message : Json → String}
    (formed : Formed supportedKeywords keywords) (bounds : keyword ∈ boundNames)
    (kept : Within keywords keyword fun limit => breaks limit = false) :
    checkBound keywords keyword breaks message = .ok [] := by
  unfold checkBound
  cases found : keywords.get? keyword with
  | none => rfl
  | some bound =>
    obtain ⟨q, numeric⟩ := formed.bounds keyword bounds bound found
    have number := number_of_numeric numeric
    have unbroken := kept bound q found number
    cases bound with
    | null => cases numeric
    | _ =>
      unfold compared
      simp only [number]
      change (if breaks q = true then _ else _) = _
      rw [unbroken]
      rfl

theorem checkBounds_ok {lower upper : String} {q : Rat} {below above : Json → String}
    (formed : Formed supportedKeywords keywords) (low : lower ∈ boundNames)
    (high : upper ∈ boundNames) (small : Within keywords lower (· ≤ q))
    (large : Within keywords upper (q ≤ ·)) :
    joined (checkBound keywords lower (fun limit => decide (q < limit)) below)
      (checkBound keywords upper (fun limit => decide (limit < q)) above) = .ok [] := by
  refine joined_nil.mpr ⟨checkBound_ok formed low ?_, checkBound_ok formed high ?_⟩
  · exact fun bound limit found number => decide_eq_false (Rat.not_lt.mpr (small bound limit found number))
  · exact fun bound limit found number => decide_eq_false (Rat.not_lt.mpr (large bound limit found number))

theorem missingKeys_ok {fields : Items} {keys : List Json}
    (present : ∀ key ∈ keys, isIn key (.dict fields) = .ok true) :
    missingKeys format fields path keys = .ok [] := by
  induction keys with
  | nil => rfl
  | cons key rest ih =>
    rw [missingKeys, present key List.mem_cons_self,
      ih fun other member => present other (List.mem_cons_of_mem _ member)]
    rfl

theorem checkRequired_ok {fields : Items} (required : ∃ keys,
      iterate ((keywords.get? "required").getD (.list [])) = .ok keys ∧
        ∀ key ∈ keys, isIn key (.dict fields) = .ok true) :
    checkRequired format fields keywords path = .ok [] := by
  obtain ⟨keys, listed, present⟩ := required
  unfold checkRequired
  rw [listed]
  exact missingKeys_ok present

theorem checkAdditional_ok {fields known : Items}
    (declared : keywords.get? "additionalProperties" = some (.bool false) →
      ∀ field ∈ fields, (known.get? field.1).isSome) :
    checkAdditional fields keywords known path = [] := by
  unfold checkAdditional
  split
  · next closed =>
    have none_left : (fields.map Prod.fst).filter (fun key => (known.get? key).isNone) = [] := by
      rw [List.filter_eq_nil_iff]
      intro key member undeclared
      obtain ⟨field, inside, rfl⟩ := List.mem_map.mp member
      have present := declared closed field inside
      rw [Option.isSome_iff_ne_none] at present
      exact present (Option.isNone_iff_eq_none.mp undeclared)
    rw [none_left]
    rfl
  · rfl

theorem validateProperties_ok {fields known : Items}
    (inside : ∀ name inner item, (name, Json.dict inner) ∈ known → fields.get? name = some item →
      ∀ path, validateValue format item inner path = .ok []) :
    validateProperties format fields known path = .ok [] := by
  induction known with
  | nil => rw [validateProperties.eq_def]
  | cons first rest ih =>
    obtain ⟨name, declared⟩ := first
    rw [validateProperties.eq_def]
    refine joined_nil.mpr ⟨?_, ih fun other inner item member =>
      inside other inner item (List.mem_cons_of_mem _ member)⟩
    split
    · next inner item found => exact inside name inner item List.mem_cons_self found _
    · rfl

theorem validateItems_ok {xs : List Json} {inner : Items} {index : Nat}
    (each : ∀ x ∈ xs, ∀ path, validateValue format x inner path = .ok []) :
    validateItems format xs index inner path = .ok [] := by
  induction xs generalizing index with
  | nil => rw [validateItems]
  | cons x rest ih =>
    rw [validateItems]
    exact joined_nil.mpr ⟨each x List.mem_cons_self _,
      ih fun other member => each other (List.mem_cons_of_mem _ member)⟩

theorem validateObject_ok {fields : Items} (formed : Formed supportedKeywords keywords)
    (required : checkRequired format fields keywords path = .ok [])
    (properties : ∀ known, keywords.get? "properties" = some (.dict known) →
      validateProperties format fields known path = .ok [])
    (additional : ∀ known, (keywords.get? "properties").getD (.dict []) = .dict known →
      checkAdditional fields keywords known path = []) :
    validateObject format fields keywords path = .ok [] := by
  rw [validateObject.eq_def]
  refine joined_nil.mpr ⟨required, ?_⟩
  split
  · next absent => exact congrArg Except.ok (additional [] (by rw [absent]; rfl))
  · next known found =>
    exact joined_nil.mpr ⟨properties known found,
      congrArg Except.ok (additional known (by rw [found]; rfl))⟩
  · next declared odd found =>
    obtain ⟨known, same, -⟩ := formed.properties declared found
    exact absurd same (odd known)

theorem validateValue_of_conforms (keywords : Items) (value : Json) (path : String)
    (formed : WellFormed supportedKeywords (.dict keywords)) (conforms : Conforms value keywords) :
    validateValue format value keywords path = .ok [] := by
  induction n : sizeOf keywords using Nat.strongRecOn generalizing keywords value path with
  | ind n ih =>
    subst n
    obtain ⟨plain, properties_formed, -, items_formed, -⟩ := wellFormed_dict.mp formed
    obtain ⟨typed, chosen, required, properties, additional, elements, count, length, size⟩ := conforms
    have keywords_ok : validateKeywords format value keywords path = .ok [] := by
      rw [validateKeywords.eq_def]
      refine joined_nil.mpr ⟨checkEnum_ok chosen, ?_⟩
      cases value with
      | null => rfl
      | bool b => rfl
      | int n => exact checkBounds_ok plain (by decide) (by decide) (size n rfl rfl).1 (size n rfl rfl).2
      | float q =>
        exact checkBounds_ok plain (by decide) (by decide) (size q rfl rfl).1 (size q rfl rfl).2
      | text s => exact checkBounds_ok plain (by decide) (by decide) (length s rfl).1 (length s rfl).2
      | list xs =>
        dsimp only
        rw [validateArray.eq_def]
        refine joined_nil.mpr ⟨checkBounds_ok plain (by decide) (by decide) (count xs rfl).1
          (count xs rfl).2, ?_⟩
        split
        · next inner found =>
          refine validateItems_ok fun x member path => ?_
          have smaller := sizeOf_get? found
          rw [Json.dict.sizeOf_spec] at smaller
          exact ih _ (by omega) inner x path (items_formed _ found)
            (elements xs inner rfl found x member) rfl
        · rfl
      | dict fields =>
        refine validateObject_ok plain (checkRequired_ok (required fields rfl)) ?_ ?_
        · intro known found
          refine validateProperties_ok fun name inner item member present path => ?_
          have smaller := (sizeOf_dict_mem member).trans (sizeOf_dict_mem (mem_of_get? found))
          obtain ⟨_, ⟨⟩, unique⟩ := plain.properties _ found
          exact ih _ smaller inner item path
            (properties_formed known found name _ (get?_of_mem unique member))
            (properties fields known name inner item rfl found member present) rfl
        · intro known listed
          refine checkAdditional_ok fun closed field member => ?_
          obtain ⟨declared, found, present⟩ := additional fields rfl closed field member
          rw [found] at listed
          cases listed
          exact present
    rw [validateValue.eq_def]
    cases found : keywords.get? "type" with
    | none => exact keywords_ok
    | some types =>
      rcases typed types found with rfl | matched
      · exact keywords_ok
      · cases types with
        | null => exact keywords_ok
        | _ => exact (if_pos matched).trans keywords_ok

theorem validateValue_iff (formed : WellFormed supportedKeywords (.dict keywords)) :
    validateValue format value keywords path = .ok [] ↔
      ∀ visited item, Visits keywords value visited item → Checked visited item := by
  have unbranched : ∀ keyword ∈ choiceNames, keyword ∉ supportedKeywords := by decide
  have positions := forall_visits_iff (P := fun keywords value => Conforms value keywords) unbranched
    (fun _ _ formed => conforms_step formed) keywords value formed
  rw [← positions]
  exact ⟨conforms_of_validateValue keywords value path,
    validateValue_of_conforms keywords value path formed⟩

end Validator

section Differences

variable {keywords : Items} {value : Json}

/-- A number without a fraction that is written as a float, where an integer is asked for. -/
def AsInteger (keywords : Items) (value : Json) : Prop :=
  ∃ types q, keywords.get? "type" = some types ∧ value = .float q ∧ q.den = 1 ∧
    .text "integer" ∈ listedTypes types ∧ .text "number" ∉ listedTypes types

def Confused (keywords : Items) (value : Json) : Prop :=
  ∃ choices, keywords.get? "enum" = some (.list choices) ∧ (∃ x ∈ choices, x.same value = true) ∧
    ∀ x ∈ choices, equal x value = false

theorem matchesType_name {name : String} (known : name ∈ typeNames) :
    matchesType value (.text name) = true ↔
      hasType value name = true ∧ ¬(name = "integer" ∧ ∃ q, value = .float q) := by
  unfold typeNames at known
  simp only [List.mem_cons, List.not_mem_nil, or_false] at known
  rcases known with rfl | rfl | rfl | rfl | rfl | rfl | rfl <;>
    cases value <;> simp [matchesType, hasType, isNumber]

theorem matchesAny_iff {types : List Json} :
    matchesAny value types = true ↔ ∃ one ∈ types, matchesType value one = true := by
  induction types with
  | nil => simp [matchesAny]
  | cons one rest ih =>
    rw [matchesAny, Bool.or_eq_true, ih]
    simp

theorem matchesType_iff {types : Json}
    (known : ∀ one ∈ listedTypes types, ∃ name ∈ typeNames, one = .text name) :
    matchesType value types = true ↔
      ∃ name, .text name ∈ listedTypes types ∧ matchesType value (.text name) = true := by
  cases types with
  | list names =>
    rw [matchesType, matchesAny_iff]
    constructor
    · rintro ⟨one, member, matched⟩
      obtain ⟨name, -, rfl⟩ := known one member
      exact ⟨name, member, matched⟩
    · rintro ⟨name, member, matched⟩
      exact ⟨.text name, member, matched⟩
  | text name =>
    constructor
    · exact fun matched => ⟨name, List.mem_singleton_self _, matched⟩
    · rintro ⟨other, member, matched⟩
      rwa [List.mem_singleton.mp member] at matched
  | _ =>
    obtain ⟨name, -, impossible⟩ := known _ (List.mem_singleton_self _)
    cases impossible

theorem typedHere_iff {allowed : List String} (formed : Formed allowed keywords) :
    TypedHere keywords value ↔ Typed keywords value ∧ ¬AsInteger keywords value := by
  unfold TypedHere Typed AsInteger
  cases found : keywords.get? "type" with
  | none => simp
  | some types =>
    have known := formed.types types found
    have names : ∀ name, .text name ∈ listedTypes types → name ∈ typeNames := by
      intro name member
      obtain ⟨same, among, ⟨⟩⟩ := known _ member
      exact among
    simp only [Option.some.injEq, forall_eq', matchesType_iff known]
    constructor
    · rintro ⟨name, member, matched⟩
      obtain ⟨typed, not_float⟩ := (matchesType_name (names name member)).mp matched
      refine ⟨⟨name, member, typed⟩, ?_⟩
      rintro ⟨_, q, rfl, rfl, whole, integer, no_number⟩
      unfold hasType at typed
      simp only [Bool.or_eq_true, Bool.and_eq_true, decide_eq_true_eq] at typed
      rcases typed with rfl | ⟨rfl, -⟩
      · exact no_number member
      · exact not_float ⟨rfl, q, rfl⟩
    · rintro ⟨⟨name, member, typed⟩, not_integer⟩
      by_cases float : name = "integer" ∧ ∃ q, value = .float q
      · obtain ⟨rfl, q, rfl⟩ := float
        have whole : q.den = 1 := by simpa [hasType] using typed
        have number : .text "number" ∈ listedTypes types := by
          by_contra no_number
          exact not_integer ⟨types, q, rfl, rfl, whole, member, no_number⟩
        refine ⟨"number", number, (matchesType_name (by decide)).mpr ⟨rfl, fun both => ?_⟩⟩
        exact absurd both.1 (by decide)
      · exact ⟨name, member, (matchesType_name (names name member)).mpr ⟨typed, float⟩⟩

theorem chosen_iff : Chosen keywords value ↔ ChosenHere keywords value ∧ ¬Confused keywords value := by
  unfold Chosen ChosenHere Confused
  constructor
  · intro chosen
    refine ⟨fun choices found => ?_, ?_⟩
    · obtain ⟨x, member, equals⟩ := chosen choices found
      exact ⟨x, member, same_of_equal equals⟩
    · rintro ⟨choices, found, -, apart⟩
      obtain ⟨x, member, equals⟩ := chosen choices found
      rw [apart x member] at equals
      cases equals
  · rintro ⟨here, not_confused⟩ choices found
    by_contra apart
    refine not_confused ⟨choices, found, here choices found, fun x member => ?_⟩
    rw [Bool.eq_false_iff]
    exact fun equals => apart ⟨x, member, equals⟩

def Refused (keywords : Items) (value : Json) : Prop :=
  ¬(Kept keywords value ∧ Typed keywords value ∧ ChosenHere keywords value)

def Overlooked (search : String → String → Prop) (keywords : Items) (value : Json) : Prop :=
  Confused keywords value ∨ ¬Closed search keywords value

variable {search : String → String → Prop}

theorem checked_iff (formed : Formed supportedKeywords keywords) :
    Checked keywords value ↔ ¬Refused keywords value ∧ ¬AsInteger keywords value := by
  unfold Refused
  rw [not_not]
  constructor
  · rintro ⟨typed, chosen, kept⟩
    obtain ⟨typed, whole⟩ := (typedHere_iff formed).mp typed
    exact ⟨⟨kept, typed, chosen⟩, whole⟩
  · rintro ⟨⟨kept, typed, chosen⟩, whole⟩
    exact ⟨(typedHere_iff formed).mpr ⟨typed, whole⟩, chosen, kept⟩

theorem meant_iff (formed : Formed supportedKeywords keywords) :
    (Plain search keywords value ∧ NoExtra keywords value ∧ Closed search keywords value) ↔
      ¬Refused keywords value ∧ ¬Overlooked search keywords value := by
  have no_constant : keywords.get? "const" = none := absent_of_not_allowed formed (by decide)
  have no_pattern : keywords.get? "pattern" = none := absent_of_not_allowed formed (by decide)
  unfold Refused Overlooked
  rw [not_not, not_or, not_not]
  constructor
  · rintro ⟨⟨typed, chosen, -, sized, required, -⟩, noExtra, closed⟩
    obtain ⟨here, apart⟩ := chosen_iff.mp chosen
    exact ⟨⟨⟨sized, required, noExtra⟩, typed, here⟩, apart, closed⟩
  · rintro ⟨⟨⟨sized, required, noExtra⟩, typed, here⟩, apart, closed⟩
    refine ⟨⟨typed, chosen_iff.mpr ⟨here, apart⟩, ?_, sized, required, ?_⟩, noExtra, closed⟩
    · intro constant found
      rw [no_constant] at found
      cases found
    · intro s pattern _ found
      rw [no_pattern] at found
      cases found

theorem visits_formed {visited : Items} {item : Json}
    (formed : WellFormed supportedKeywords (.dict keywords)) (visits : Visits keywords value visited item) :
    Formed supportedKeywords visited := by
  induction visits with
  | here => exact (wellFormed_dict.mp formed).1
  | property found declared present later ih =>
    exact ih ((wellFormed_dict.mp formed).2.1 _ found _ _ declared)
  | element found member later ih => exact ih ((wellFormed_dict.mp formed).2.2.2.1 _ found)
  | choice among found member later ih =>
    exact ih ((wellFormed_dict.mp formed).2.2.2.2 _ among _ found _ member)

/-- The verdict is that of the schema's meaning exactly where some check fails in both readings,
or where a float without a fraction is refused as an integer only together with something that is
overlooked. -/
theorem validate_iff_satisfies {format : Json → String}
    (formed : WellFormed supportedKeywords (.dict keywords)) :
    (validate format keywords value = .ok [] ↔ Satisfies search (.dict keywords) value) ↔
      (∃ visited item, Visits keywords value visited item ∧ Refused visited item) ∨
        ((∃ visited item, Visits keywords value visited item ∧ AsInteger visited item) ↔
          ∃ visited item, Visits keywords value visited item ∧ Overlooked search visited item) := by
  have passes : validate format keywords value = .ok [] ↔ ∀ visited item,
      Visits keywords value visited item → ¬Refused visited item ∧ ¬AsInteger visited item := by
    refine (validateValue_iff formed).trans (forall₃_congr fun visited item visits => ?_)
    exact checked_iff (visits_formed formed visits)
  have means : Satisfies search (.dict keywords) value ↔ ∀ visited item,
      Visits keywords value visited item → ¬Refused visited item ∧ ¬Overlooked search visited item := by
    refine (satisfies_iff search (by decide) formed).trans (forall₃_congr fun visited item visits => ?_)
    exact meant_iff (visits_formed formed visits)
  rw [passes, means]
  by_cases refused : ∃ visited item, Visits keywords value visited item ∧ Refused visited item
  · obtain ⟨visited, item, visits, refused⟩ := refused
    refine iff_of_true (iff_of_false ?_ ?_) (.inl ⟨visited, item, visits, refused⟩)
    · exact fun every => (every visited item visits).1 refused
    · exact fun every => (every visited item visits).1 refused
  · have accepted : ∀ visited item, Visits keywords value visited item → ¬Refused visited item :=
      fun visited item visits fails => refused ⟨visited, item, visits, fails⟩
    have only (Q : Items → Json → Prop) : (∀ visited item, Visits keywords value visited item →
        ¬Refused visited item ∧ ¬Q visited item) ↔
        ¬∃ visited item, Visits keywords value visited item ∧ Q visited item := by
      constructor
      · rintro every ⟨visited, item, visits, holds⟩
        exact (every visited item visits).2 holds
      · exact fun never visited item visits =>
          ⟨accepted visited item visits, fun holds => never ⟨visited, item, visits, holds⟩⟩
    rw [only, only, not_iff_not]
    exact ⟨.inr, fun either => either.resolve_left refused⟩

end Differences

section OneOrTrue

def onlyOne : Items := [("enum", .list [.int 1])]

theorem onlyOne_formed : WellFormed supportedKeywords (.dict onlyOne) := by
  have absent : ∀ keyword, keyword ≠ "enum" → Items.get? onlyOne keyword = none := by
    intro keyword other
    simp [onlyOne, Items.get?, other.symm]
  have present : Items.get? onlyOne "enum" = some (.list [.int 1]) := rfl
  have nothing {keyword : String} {held : Json} (other : keyword ≠ "enum") {P : Prop}
      (found : Items.get? onlyOne keyword = some held) : P := by
    rw [absent keyword other] at found
    cases found
  rw [wellFormed_dict]
  refine ⟨⟨?_, fun _ => nothing (by decide), ?_, fun _ => nothing (by decide),
    fun _ => nothing (by decide), ?_, ?_, fun _ => nothing (by decide)⟩,
    fun _ => nothing (by decide), fun _ => nothing (by decide), fun _ => nothing (by decide), ?_⟩
  · intro item member
    rw [List.mem_singleton.mp member]
    decide
  · intro choices found
    exact ⟨_, Option.some.inj (found.symm.trans present)⟩
  · rintro keyword among choices found
    exact nothing (by rintro rfl; exact absurd among (by decide)) found
  · rintro keyword among bound found
    exact nothing (by rintro rfl; exact absurd among (by decide)) found
  · rintro keyword among choices found
    exact nothing (by rintro rfl; exact absurd among (by decide)) found

theorem validate_one : (validate (fun _ => "") onlyOne (.int 1) = .ok [] ↔
      Satisfies (fun _ _ => True) (.dict onlyOne) (.int 1)) ↔
    (∃ visited item, Visits onlyOne (.int 1) visited item ∧ Refused visited item) ∨
      ((∃ visited item, Visits onlyOne (.int 1) visited item ∧ AsInteger visited item) ↔
        ∃ visited item, Visits onlyOne (.int 1) visited item ∧
          Overlooked (fun _ _ => True) visited item) :=
  validate_iff_satisfies onlyOne_formed

/-- `True` passes for a choice of one, which the schema does not allow. -/
theorem true_passes_for_one : WellFormed supportedKeywords (.dict onlyOne) ∧
    validate (fun _ => "") onlyOne (.bool true) = .ok [] ∧
    ¬Satisfies (fun _ _ => True) (.dict onlyOne) (.bool true) := by
  refine ⟨onlyOne_formed, ?_, fun satisfied => ?_⟩
  · refine validateValue_of_conforms onlyOne (.bool true) "$" onlyOne_formed ?_
    refine (conforms_step onlyOne_formed).mpr ⟨⟨?_, ?_, trivial, ?_, ?_⟩, ?_, ?_⟩
    · rintro types ⟨⟩
    · rintro choices ⟨⟩
      exact ⟨.int 1, List.mem_singleton_self _, by decide⟩
    · rintro fields keys ⟨⟩
    · rintro ⟨⟩
    · rintro known ⟨⟩
    · rintro inner ⟨⟩
  · obtain ⟨one, member, equals⟩ := ((satisfies_dict _).mp satisfied).1.chosen _ rfl
    rw [List.mem_singleton.mp member] at equals
    exact absurd equals (by decide)

end OneOrTrue

end Taroai.Governance.Schema
