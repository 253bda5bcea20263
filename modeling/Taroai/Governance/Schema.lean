import Taroai.Lib.Json
import Taroai.Lib.Substitute

/-! `JsonSchemaValidator` of `tool_gateway/schema.py`. A schema is any dictionary, so a keyword
may hold a value that the comparison or the iteration over it refuses; Python then raises and
no verdict is reached. How a value is printed into an error text is the parameter `format`. -/

namespace Taroai.Governance

open Json

inductive SchemaError where
  | typeError
  | attributeError
deriving DecidableEq, Repr

namespace Schema

/-- Two checks in turn: their errors are appended, and a raise of either is one of both. -/
def joined (first second : Except SchemaError (List String)) : Except SchemaError (List String) := do
  let errors ← first
  let others ← second
  return errors ++ others

theorem joined_nil {first second : Except SchemaError (List String)} :
    joined first second = .ok [] ↔ first = .ok [] ∧ second = .ok [] := by
  unfold joined
  cases first with
  | error e => simp [bind, Except.bind]
  | ok errors =>
    cases second with
    | error e => simp [bind, Except.bind]
    | ok others => simp [bind, Except.bind, pure, Except.pure]

def isNumber : Json → Bool
  | .int _ | .float _ => true
  | .null | .bool _ | .text _ | .list _ | .dict _ => false

mutual

def matchesType (value : Json) : Json → Bool
  | .list types => matchesAny value types
  | .text "object" => match value with
    | .dict _ => true
    | _ => false
  | .text "array" => match value with
    | .list _ => true
    | _ => false
  | .text "string" => match value with
    | .text _ => true
    | _ => false
  | .text "integer" => match value with
    | .int _ => true
    | _ => false
  | .text "number" => isNumber value
  | .text "boolean" => match value with
    | .bool _ => true
    | _ => false
  | .text "null" => match value with
    | .null => true
    | _ => false
  | _ => true

def matchesAny (value : Json) : List Json → Bool
  | [] => false
  | one :: rest => matchesType value one || matchesAny value rest

end

/-- `container` of `value in container`. -/
def isIn (value : Json) : Json → Except SchemaError Bool
  | .list xs => .ok (xs.any fun x => x.same value)
  | .text s => match value with
    | .text part => .ok (includes s part)
    | _ => .error .typeError
  | .dict items => match value with
    | .text key => .ok (Items.get? items key).isSome
    | .list _ | .dict _ => .error .typeError
    | _ => .ok false
  | .null | .bool _ | .int _ | .float _ => .error .typeError

/-- What `for key in value` goes through. -/
def iterate : Json → Except SchemaError (List Json)
  | .list xs => .ok xs
  | .text s => .ok (s.toList.map fun c => .text (String.singleton c))
  | .dict items => .ok (items.map fun item => .text item.1)
  | .null | .bool _ | .int _ | .float _ => .error .typeError

/-- `value < bound`, or the other way round, where the bound need not be a number. -/
def compared (bound : Json) (breaks : Rat → Bool) : Except SchemaError Bool :=
  match bound.number? with
  | some limit => .ok (breaks limit)
  | none => .error .typeError

/-- One bound of a schema: absent or `None` is no bound. -/
def checkBound (schema : Items) (keyword : String) (breaks : Rat → Bool) (message : Json → String) :
    Except SchemaError (List String) :=
  match schema.get? keyword with
  | none | some .null => .ok []
  | some bound => do
    if ← compared bound breaks then return [message bound] else return []

section Validate

variable (format : Json → String)

def checkEnum (value : Json) (schema : Items) (path : String) : Except SchemaError (List String) :=
  match schema.get? "enum" with
  | none => .ok []
  | some choices => do
    if ← isIn value choices then return []
    else return [path ++ " must be one of " ++ format choices]

/-- `for key in required: if key not in value`. -/
def missingKeys (items : Items) (path : String) : List Json → Except SchemaError (List String)
  | [] => .ok []
  | key :: rest => do
    let present ← isIn key (.dict items)
    let others ← missingKeys items path rest
    if present then return others else return (path ++ "." ++ format key ++ " is required") :: others

def checkRequired (items schema : Items) (path : String) : Except SchemaError (List String) := do
  let keys ← iterate ((schema.get? "required").getD (.list []))
  missingKeys format items path keys

def checkAdditional (items schema properties : Items) (path : String) : List String :=
  match schema.get? "additionalProperties" with
  | some (.bool false) =>
    let additional := (items.map Prod.fst).filter fun key => (properties.get? key).isNone
    (additional.insertionSort fun a b => a ≤ b).map fun key => path ++ "." ++ key ++ " is not allowed"
  | _ => []

def checkLength (xs : List Json) (schema : Items) (path : String) :
    Except SchemaError (List String) :=
  joined
    (checkBound schema "minItems" (fun limit => decide ((xs.length : Rat) < limit))
      fun bound => path ++ " must contain at least " ++ format bound ++ " items")
    (checkBound schema "maxItems" (fun limit => decide (limit < (xs.length : Rat)))
      fun bound => path ++ " must contain at most " ++ format bound ++ " items")

def validateString (s : String) (schema : Items) (path : String) :
    Except SchemaError (List String) :=
  joined
    (checkBound schema "minLength" (fun limit => decide ((s.length : Rat) < limit))
      fun bound => path ++ " must contain at least " ++ format bound ++ " characters")
    (checkBound schema "maxLength" (fun limit => decide (limit < (s.length : Rat)))
      fun bound => path ++ " must contain at most " ++ format bound ++ " characters")

def validateNumber (q : Rat) (schema : Items) (path : String) : Except SchemaError (List String) :=
  joined
    (checkBound schema "minimum" (fun limit => decide (q < limit))
      fun bound => path ++ " must be at least " ++ format bound)
    (checkBound schema "maximum" (fun limit => decide (limit < q))
      fun bound => path ++ " must be at most " ++ format bound)

theorem sizeOf_dict_mem {items inner : Items} {key : String}
    (present : (key, Json.dict inner) ∈ items) : sizeOf inner < sizeOf items := by
  have := List.sizeOf_lt_of_mem present
  simp only [Prod.mk.sizeOf_spec, Json.dict.sizeOf_spec] at this
  omega

mutual

/-- `_validate_value`: the errors in the order in which they are appended. -/
def validateValue (value : Json) (schema : Items) (path : String) :
    Except SchemaError (List String) :=
  match schema.get? "type" with
  | none | some .null => validateKeywords value schema path
  | some expected =>
    if matchesType value expected then validateKeywords value schema path
    else .ok [path ++ " expected " ++ format expected]
termination_by (sizeOf schema, 2)

/-- The part of `_validate_value` behind the check of the type. -/
def validateKeywords (value : Json) (schema : Items) (path : String) :
    Except SchemaError (List String) :=
  joined (checkEnum format value schema path)
    (match value with
    | .dict items => validateObject items schema path
    | .list xs => validateArray xs schema path
    | .text s => validateString format s schema path
    | .int n => validateNumber format n schema path
    | .float q => validateNumber format q schema path
    | .null | .bool _ => .ok [])
termination_by (sizeOf schema, 1)

def validateObject (items schema : Items) (path : String) : Except SchemaError (List String) :=
  joined (checkRequired format items schema path)
    (match _found : schema.get? "properties" with
    | none => .ok (checkAdditional items schema [] path)
    | some (.dict properties) =>
      joined (validateProperties items properties path)
        (.ok (checkAdditional items schema properties path))
    | some _ => .error .attributeError)
termination_by (sizeOf schema, 0)
decreasing_by
  exact Prod.Lex.left _ _ (sizeOf_dict_mem (mem_of_get? _found))

def validateArray (xs : List Json) (schema : Items) (path : String) :
    Except SchemaError (List String) :=
  joined (checkLength format xs schema path)
    (match _found : schema.get? "items" with
    | some (.dict itemSchema) => validateItems xs 0 itemSchema path
    | _ => .ok [])
termination_by (sizeOf schema, 0)
decreasing_by
  exact Prod.Lex.left _ _ (sizeOf_dict_mem (mem_of_get? _found))

def validateProperties (items properties : Items) (path : String) :
    Except SchemaError (List String) :=
  match properties with
  | [] => .ok []
  | (key, propertySchema) :: rest =>
    joined
      (match propertySchema, items.get? key with
      | .dict inner, some value => validateValue value inner (path ++ "." ++ key)
      | _, _ => .ok [])
      (validateProperties items rest path)
termination_by (sizeOf properties, 0)

def validateItems (xs : List Json) (index : Nat) (itemSchema : Items) (path : String) :
    Except SchemaError (List String) :=
  match xs with
  | [] => .ok []
  | x :: rest =>
    joined (validateValue x itemSchema (path ++ "[" ++ toString index ++ "]"))
      (validateItems rest (index + 1) itemSchema path)
termination_by (sizeOf itemSchema, 3 + xs.length)

end

/-- `JsonSchemaValidator.validate`. -/
def validate (schema : Items) (value : Json) : Except SchemaError (List String) :=
  validateValue format value schema "$"

end Validate

section Conforms

def Within (schema : Items) (keyword : String) (kept : Rat → Prop) : Prop :=
  ∀ bound limit, schema.get? keyword = some bound → bound.number? = some limit → kept limit

/-- The value meets each keyword of the schema that the validator knows, at every depth. -/
inductive Conforms : Json → Items → Prop
  | intro {value : Json} {schema : Items}
    (typed : ∀ expected, schema.get? "type" = some expected →
      expected = .null ∨ matchesType value expected = true)
    (chosen : ∀ choices, schema.get? "enum" = some choices → isIn value choices = .ok true)
    (required : ∀ items, value = .dict items →
      ∃ keys, iterate ((schema.get? "required").getD (.list [])) = .ok keys ∧
        ∀ key ∈ keys, isIn key (.dict items) = .ok true)
    (properties : ∀ items known key inner item, value = .dict items →
      schema.get? "properties" = some (.dict known) → (key, .dict inner) ∈ known →
      Items.get? items key = some item → Conforms item inner)
    (additional : ∀ items, value = .dict items →
      schema.get? "additionalProperties" = some (.bool false) → ∀ item ∈ items,
      ∃ known, schema.get? "properties" = some (.dict known) ∧ (Items.get? known item.1).isSome)
    (elements : ∀ xs inner, value = .list xs → schema.get? "items" = some (.dict inner) →
      ∀ x ∈ xs, Conforms x inner)
    (count : ∀ xs, value = .list xs → Within schema "minItems" (· ≤ (xs.length : Rat)) ∧
      Within schema "maxItems" ((xs.length : Rat) ≤ ·))
    (length : ∀ s, value = .text s → Within schema "minLength" (· ≤ (s.length : Rat)) ∧
      Within schema "maxLength" ((s.length : Rat) ≤ ·))
    (size : ∀ q, isNumber value = true → value.number? = some q →
      Within schema "minimum" (· ≤ q) ∧ Within schema "maximum" (q ≤ ·)) : Conforms value schema

variable {format : Json → String}

theorem checkBound_nil {schema : Items} {keyword : String} {breaks : Rat → Bool}
    {message : Json → String} (clean : checkBound schema keyword breaks message = .ok []) :
    Within schema keyword fun limit => breaks limit = false := by
  intro bound limit found number
  unfold checkBound at clean
  rw [found] at clean
  cases bound with
  | null => cases number
  | _ =>
    simp only [compared, number, bind, Except.bind] at clean
    cases broken : breaks limit with
    | false => rfl
    | true =>
      rw [broken] at clean
      simp [pure, Except.pure] at clean

theorem within_of_lower {schema : Items} {keyword : String} {q : Rat} {message : Json → String}
    (clean : checkBound schema keyword (fun limit => decide (q < limit)) message = .ok []) :
    Within schema keyword (· ≤ q) := fun bound limit found number =>
  Rat.not_lt.mp (of_decide_eq_false (checkBound_nil clean bound limit found number))

theorem within_of_upper {schema : Items} {keyword : String} {q : Rat} {message : Json → String}
    (clean : checkBound schema keyword (fun limit => decide (limit < q)) message = .ok []) :
    Within schema keyword (q ≤ ·) := fun bound limit found number =>
  Rat.not_lt.mp (of_decide_eq_false (checkBound_nil clean bound limit found number))

theorem missingKeys_nil {items : Items} {path : String} {keys : List Json}
    (clean : missingKeys format items path keys = .ok []) :
    ∀ key ∈ keys, isIn key (.dict items) = .ok true := by
  induction keys with
  | nil => simp
  | cons key rest ih =>
    unfold missingKeys at clean
    cases found : isIn key (.dict items) with
    | error e => simp [found, bind, Except.bind] at clean
    | ok present =>
      cases others : missingKeys format items path rest with
      | error e => simp [found, others, bind, Except.bind] at clean
      | ok missing =>
        cases present with
        | false => simp [found, others, bind, Except.bind, pure, Except.pure] at clean
        | true =>
          simp only [found, others, bind, Except.bind, pure, Except.pure, if_true,
            Except.ok.injEq] at clean
          rw [clean] at others
          intro other member
          rcases List.mem_cons.mp member with rfl | member
          · exact found
          · exact ih others other member

theorem validateProperties_nil {items properties : Items} {path : String}
    (clean : validateProperties format items properties path = .ok []) :
    ∀ key inner item, (key, Json.dict inner) ∈ properties → items.get? key = some item →
      ∃ inside, validateValue format item inner inside = .ok [] := by
  induction properties with
  | nil => simp
  | cons first rest ih =>
    obtain ⟨name, propertySchema⟩ := first
    rw [validateProperties.eq_def] at clean
    dsimp only at clean
    rw [joined_nil] at clean
    obtain ⟨here, later⟩ := clean
    intro key inner item member found
    rcases List.mem_cons.mp member with same | member
    · cases same
      rw [found] at here
      exact ⟨_, here⟩
    · exact ih later key inner item member found

theorem validateItems_nil {xs : List Json} {index : Nat} {itemSchema : Items} {path : String}
    (clean : validateItems format xs index itemSchema path = .ok []) :
    ∀ x ∈ xs, ∃ inside, validateValue format x itemSchema inside = .ok [] := by
  induction xs generalizing index with
  | nil => simp
  | cons first rest ih =>
    rw [validateItems, joined_nil] at clean
    obtain ⟨here, later⟩ := clean
    intro x member
    rcases List.mem_cons.mp member with rfl | member
    · exact ⟨_, here⟩
    · exact ih later x member

theorem checkAdditional_nil {items schema properties : Items} {path : String}
    (clean : checkAdditional items schema properties path = [])
    (closed : schema.get? "additionalProperties" = some (.bool false)) :
    ∀ item ∈ items, (properties.get? item.1).isSome := by
  intro item member
  unfold checkAdditional at clean
  rw [closed] at clean
  simp only [List.map_eq_nil_iff] at clean
  have none_left : (items.map Prod.fst).filter (fun key => (properties.get? key).isNone) = [] := by
    have perm := List.perm_insertionSort (fun a b : String => a ≤ b)
      ((items.map Prod.fst).filter fun key => (properties.get? key).isNone)
    rw [clean] at perm
    exact perm.symm.eq_nil
  have known := List.filter_eq_nil_iff.mp none_left item.1 (List.mem_map_of_mem member)
  rw [Option.isSome_iff_ne_none]
  simpa using known

theorem validateObject_nil {items schema : Items} {path : String}
    (clean : validateObject format items schema path = .ok []) :
    checkRequired format items schema path = .ok [] ∧
      (∀ known, schema.get? "properties" = some (.dict known) →
        validateProperties format items known path = .ok []) ∧
      ∃ known, (schema.get? "properties" = some (.dict known) ∨
          schema.get? "properties" = none ∧ known = []) ∧
        checkAdditional items schema known path = [] := by
  rw [validateObject.eq_def, joined_nil] at clean
  obtain ⟨required, nested⟩ := clean
  refine ⟨required, ?_⟩
  split at nested
  · next absent => exact ⟨by simp [absent], [], .inr ⟨absent, rfl⟩, Except.ok.inj nested⟩
  · next properties present =>
    obtain ⟨inner, additional⟩ := joined_nil.mp nested
    refine ⟨fun known found => ?_, properties, .inl present, Except.ok.inj additional⟩
    rw [present] at found
    cases found
    exact inner
  · cases nested

theorem validateArray_nil {xs : List Json} {schema : Items} {path : String}
    (clean : validateArray format xs schema path = .ok []) :
    checkLength format xs schema path = .ok [] ∧
      ∀ itemSchema, schema.get? "items" = some (.dict itemSchema) →
        validateItems format xs 0 itemSchema path = .ok [] := by
  rw [validateArray.eq_def, joined_nil] at clean
  obtain ⟨bounds, nested⟩ := clean
  refine ⟨bounds, fun itemSchema found => ?_⟩
  split at nested
  · next other present =>
    rw [present] at found
    cases found
    exact nested
  · next absent => exact absurd found (absent itemSchema)

theorem checkEnum_nil {value : Json} {schema : Items} {path : String}
    (clean : checkEnum format value schema path = .ok []) :
    ∀ choices, schema.get? "enum" = some choices → isIn value choices = .ok true := by
  intro choices found
  unfold checkEnum at clean
  rw [found] at clean
  dsimp only at clean
  cases member : isIn value choices with
  | error e => simp [member, bind, Except.bind] at clean
  | ok present =>
    cases present with
    | true => rfl
    | false => simp [member, bind, Except.bind, pure, Except.pure] at clean

theorem checkRequired_nil {items schema : Items} {path : String}
    (clean : checkRequired format items schema path = .ok []) :
    ∃ keys, iterate ((schema.get? "required").getD (.list [])) = .ok keys ∧
      ∀ key ∈ keys, isIn key (.dict items) = .ok true := by
  unfold checkRequired at clean
  cases listed : iterate ((schema.get? "required").getD (.list [])) with
  | error e => simp [listed, bind, Except.bind] at clean
  | ok keys =>
    rw [listed] at clean
    exact ⟨keys, rfl, missingKeys_nil clean⟩

theorem validateValue_nil {value : Json} {schema : Items} {path : String}
    (clean : validateValue format value schema path = .ok []) :
    (∀ expected, schema.get? "type" = some expected →
      expected = .null ∨ matchesType value expected = true) ∧
      validateKeywords format value schema path = .ok [] := by
  rw [validateValue.eq_def] at clean
  cases found : schema.get? "type" with
  | none =>
    rw [found] at clean
    exact ⟨by simp, clean⟩
  | some expected =>
    rw [found] at clean
    have checked : expected = .null ∨ matchesType value expected = true := by
      cases expected with
      | null => exact .inl rfl
      | _ =>
        dsimp only at clean
        split at clean
        · next holds => exact .inr holds
        · cases clean
    refine ⟨?_, ?_⟩
    · rintro _ ⟨⟩
      exact checked
    · cases expected with
      | null => exact clean
      | _ =>
        dsimp only at clean
        split at clean
        · exact clean
        · cases clean

theorem conforms_of_validateValue (schema : Items) (value : Json) (path : String)
    (clean : validateValue format value schema path = .ok []) : Conforms value schema := by
  induction n : sizeOf schema using Nat.strongRecOn generalizing schema value path with
  | ind n ih =>
    subst n
    obtain ⟨typed, keywords⟩ := validateValue_nil clean
    rw [validateKeywords.eq_def, joined_nil] at keywords
    obtain ⟨choices, inner⟩ := keywords
    refine .intro typed (checkEnum_nil choices) ?_ ?_ ?_ ?_ ?_ ?_ ?_
    · rintro items rfl
      exact checkRequired_nil (validateObject_nil inner).1
    · rintro items known key child item rfl properties member found
      obtain ⟨inside, passed⟩ := validateProperties_nil ((validateObject_nil inner).2.1 known properties)
        key child item member found
      have smaller := (sizeOf_dict_mem member).trans (sizeOf_dict_mem (mem_of_get? properties))
      exact ih _ smaller child item inside passed rfl
    · rintro items rfl closed item member
      obtain ⟨known, listed, nothing⟩ := (validateObject_nil inner).2.2
      have present := checkAdditional_nil nothing closed item member
      rcases listed with properties | ⟨-, rfl⟩
      · exact ⟨known, properties, present⟩
      · cases present
    · rintro xs child rfl items x member
      obtain ⟨inside, passed⟩ := validateItems_nil ((validateArray_nil inner).2 child items) x member
      exact ih _ (sizeOf_dict_mem (mem_of_get? items)) child x inside passed rfl
    · rintro xs rfl
      obtain ⟨short, long⟩ := joined_nil.mp (validateArray_nil inner).1
      exact ⟨within_of_lower short, within_of_upper long⟩
    · rintro s rfl
      obtain ⟨short, long⟩ := joined_nil.mp inner
      exact ⟨within_of_lower short, within_of_upper long⟩
    · intro q numeric value_eq
      have bounds : validateNumber format q schema path = .ok [] := by
        cases value with
        | int n =>
          obtain rfl := Option.some.inj value_eq
          exact inner
        | float r =>
          obtain rfl := Option.some.inj value_eq
          exact inner
        | _ => cases numeric
      obtain ⟨small, large⟩ := joined_nil.mp bounds
      exact ⟨within_of_lower small, within_of_upper large⟩

end Conforms

end Schema

end Taroai.Governance
