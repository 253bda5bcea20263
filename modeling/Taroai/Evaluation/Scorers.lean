import Mathlib
import Taroai.Governance.Schema

/-! The scorers of `evaluation/scorers.py`. An output is any JSON value; a schema is any
dictionary, so a keyword may hold what Python cannot compare or go through, and an integer may be
too large for a float. Floats are exact. How values are written, `str.casefold` and `re.search` are
parameters. -/

namespace Taroai.Evaluation

open Json Governance
open Governance.Schema (joined isIn iterate checkBound isNumber sizeOf_dict_mem)

inductive EvaluationError where
  | schema (raised : SchemaError)
  | overflow
  | validation (model field : String)
  | value (message : String)
deriving DecidableEq, Repr

inductive ScorerKind where
  | exact
  | jsonSchema
  | contains
  | weightedRubric
deriving DecidableEq, Repr

structure NumericTolerance where
  absolute : NNRat := 0
  relative : NNRat := 0
  minimumMatchRatio : ℚ := 1
  caseSensitive : Bool := true

structure RubricCriterion where
  id : String
  weight : ℚ := 1
  minimumScore : ℚ := 0
  weight_pos : 0 < weight

structure ExpectedOutputContract where
  scorer : ScorerKind
  exactValue : Json := .null
  jsonSchema : Option Items := none
  contains : List String := []
  rubric : List RubricCriterion := []
  tolerance : NumericTolerance := {}
  contains_given : scorer = .contains → contains ≠ []
  rubric_given : scorer = .weightedRubric → rubric ≠ []

structure Texts where
  format : Json → String
  formatList : List String → String
  formatScore : ℚ → String
  /-- `json.dumps(..., ensure_ascii=False, sort_keys=True)` -/
  dumps : Json → String
  casefold : String → String
  /-- `re.search`; no result for a pattern that `re` does not accept. -/
  search : String → String → Option Bool

section Values

/-- `float(n)`: integers from here on raise `OverflowError`. -/
def floatOfInt (n : Int) : Except EvaluationError ℚ :=
  if n.natAbs < 2 ^ 1024 - 2 ^ 970 then .ok n else .error .overflow

/-- `math.isclose` -/
def isClose (tolerance : NumericTolerance) (a b : ℚ) : Bool :=
  a = b || |a - b| ≤ tolerance.relative * |b| || |a - b| ≤ tolerance.relative * |a| ||
    |a - b| ≤ tolerance.absolute

def numbersEqual (tolerance : NumericTolerance) (a b : Except EvaluationError ℚ) :
    Except EvaluationError Bool := do return isClose tolerance (← a) (← b)

variable (texts : Texts) (tolerance : NumericTolerance)

mutual

/-- `values_equal(actual, expected, tolerance)` -/
def valuesEqual : Json → Json → Except EvaluationError Bool
  | .null, expected => match expected with
    | .null => .ok true
    | _ => .ok false
  | .bool a, expected => match expected with
    | .bool b => .ok (a = b)
    | _ => .ok false
  | .int n, expected => match expected with
    | .int m => numbersEqual tolerance (floatOfInt n) (floatOfInt m)
    | .float q => numbersEqual tolerance (floatOfInt n) (.ok q)
    | _ => .ok false
  | .float p, expected => match expected with
    | .int m => numbersEqual tolerance (.ok p) (floatOfInt m)
    | .float q => numbersEqual tolerance (.ok p) (.ok q)
    | _ => .ok false
  | .text s, expected => match expected with
    | .text t => .ok (if tolerance.caseSensitive then s = t
        else texts.casefold s = texts.casefold t)
    | _ => .ok false
  | .list xs, expected => match expected with
    | .list ys => if xs.length = ys.length then allEqual xs ys else .ok false
    | _ => .ok false
  | .dict items, expected => match expected with
    | .dict others =>
      if (items.all fun item => (Items.get? others item.1).isSome) ∧
          (others.all fun item => (Items.get? items item.1).isSome) then itemsEqual items others
      else .ok false
    | _ => .ok false

/-- `all` over two lists of one length. -/
def allEqual : List Json → List Json → Except EvaluationError Bool
  | [], _ => .ok true
  | x :: xs, ys => match ys with
    | [] => .ok true
    | y :: ys => do if ← valuesEqual x y then allEqual xs ys else return false

def itemsEqual : List (String × Json) → Items → Except EvaluationError Bool
  | [], _ => .ok true
  | (key, value) :: rest, others => match others.get? key with
    | none => .ok false
    | some other => do if ← valuesEqual value other then itemsEqual rest others else return false

end

end Values

section Schema

/-- The table of `_matches_type`. -/
def isTyped : Json → String → Bool
  | .dict _, "object" | .list _, "array" | .text _, "string" | .int _, "integer"
  | .bool _, "boolean" | .null, "null" => true
  | value, "number" => isNumber value
  | _, _ => false

/-- `any` over the candidates; one that cannot be a key raises. -/
def matchesAny (value : Json) : List Json → Except SchemaError Bool
  | [] => .ok false
  | .text name :: rest => if isTyped value name then .ok true else matchesAny value rest
  | .list _ :: _ | .dict _ :: _ => .error .typeError
  | .null :: rest | .bool _ :: rest | .int _ :: rest | .float _ :: rest => matchesAny value rest

def matchesType (value : Json) : Json → Except SchemaError Bool
  | .text name => .ok (isTyped value name)
  | types => do matchesAny value (← iterate types)

variable (texts : Texts)

def checkConst (value : Json) (schema : Items) (path : String) : Except SchemaError (List String) :=
  match schema.get? "const" with
  | none => .ok []
  | some constant =>
    .ok (if value.same constant then [] else [path ++ ": value does not match const"])

def checkEnum (value : Json) (schema : Items) (path : String) : Except SchemaError (List String) :=
  match schema.get? "enum" with
  | none => .ok []
  | some choices => do
    if ← isIn value choices then return [] else return [path ++ ": value is not in enum"]

def missingProperties (items : Items) (path : String) :
    List Json → Except SchemaError (List String)
  | [] => .ok []
  | key :: rest => do
    let present ← isIn key (.dict items)
    let others ← missingProperties items path rest
    if present then return others
    else return (path ++ ": missing required property " ++ texts.format key) :: others

def checkRequired (items schema : Items) (path : String) : Except SchemaError (List String) := do
  let keys ← iterate ((schema.get? "required").getD (.list []))
  missingProperties texts items path keys

def checkAdditional (items schema properties : Items) (path : String) : List String :=
  match schema.get? "additionalProperties" with
  | some (.bool false) =>
    let extras := (items.map Prod.fst).filter fun key => (properties.get? key).isNone
    if extras = [] then []
    else [path ++ ": additional properties forbidden: " ++
      texts.formatList (extras.insertionSort fun a b => a ≤ b)]
  | _ => []

def checkRange (q : ℚ) (schema : Items) (path lower upper : String) (below above : Json → String) :
    Except SchemaError (List String) :=
  joined (checkBound schema lower (fun limit => decide (q < limit)) fun bound => path ++ below bound)
    (checkBound schema upper (fun limit => decide (limit < q)) fun bound => path ++ above bound)

def checkCount (items schema : Items) (path : String) : Except SchemaError (List String) :=
  checkRange items.length schema path "minProperties" "maxProperties"
    (fun bound => ": fewer than " ++ texts.format bound ++ " properties")
    (fun bound => ": more than " ++ texts.format bound ++ " properties")

def checkLength (xs : List Json) (schema : Items) (path : String) :
    Except SchemaError (List String) :=
  checkRange xs.length schema path "minItems" "maxItems"
    (fun bound => ": fewer than " ++ texts.format bound ++ " items")
    (fun bound => ": more than " ++ texts.format bound ++ " items")

def checkPattern (s : String) (schema : Items) (path : String) :
    Except SchemaError (List String) :=
  match schema.get? "pattern" with
  | none | some .null => .ok []
  | some (.text pattern) => .ok <| match texts.search pattern s with
    | none => [path ++ ": schema contains an invalid pattern"]
    | some true => []
    | some false => [path ++ ": string does not match pattern"]
  | some _ => .error .typeError

def validateString (s : String) (schema : Items) (path : String) :
    Except SchemaError (List String) :=
  joined
    (checkRange s.length schema path "minLength" "maxLength"
      (fun bound => ": shorter than " ++ texts.format bound ++ " characters")
      (fun bound => ": longer than " ++ texts.format bound ++ " characters"))
    (checkPattern texts s schema path)

def validateNumber (q : ℚ) (schema : Items) (path : String) : Except SchemaError (List String) :=
  checkRange q schema path "minimum" "maximum"
    (fun bound => ": value below minimum " ++ texts.format bound)
    (fun bound => ": value above maximum " ++ texts.format bound)

theorem sizeOf_list_mem {items : Items} {choices : List Json} {key : String}
    (present : (key, Json.list choices) ∈ items) : sizeOf choices < sizeOf items := by
  have := List.sizeOf_lt_of_mem present
  simp only [Prod.mk.sizeOf_spec, Json.list.sizeOf_spec] at this
  omega

mutual

/-- `validate_json_schema(value, schema, path)` -/
def validateJsonSchema (value : Json) (schema : Items) (path : String) :
    Except SchemaError (List String) :=
  match schema.get? "type" with
  | none | some .null => validateKeywords value schema path
  | some expected => do
    if ← matchesType value expected then validateKeywords value schema path
    else return [path ++ ": expected type " ++ texts.format expected]
termination_by (sizeOf schema, 2)

def validateKeywords (value : Json) (schema : Items) (path : String) :
    Except SchemaError (List String) :=
  joined (joined (checkConst value schema path) (checkEnum value schema path)) <|
    joined
      (match value with
      | .dict items => validateObject items schema path
      | .list xs => validateArray xs schema path
      | .text s => validateString texts s schema path
      | .int n => validateNumber texts n schema path
      | .float q => validateNumber texts q schema path
      | .null | .bool _ => .ok [])
      (joined (validateChoices value schema path "allOf" fun found all => found = all)
        (joined (validateChoices value schema path "anyOf" fun found _ => found ≠ 0)
          (validateChoices value schema path "oneOf" fun found _ => found = 1)))
termination_by (sizeOf schema, 1)

def validateObject (items schema : Items) (path : String) : Except SchemaError (List String) :=
  joined (checkRequired texts items schema path) <|
    joined
      (match _found : schema.get? "properties" with
      | none => .ok (checkAdditional texts items schema [] path)
      | some (.dict properties) =>
        joined (validateProperties items properties path)
          (.ok (checkAdditional texts items schema properties path))
      | some _ => .error .attributeError)
      (checkCount texts items schema path)
termination_by (sizeOf schema, 0)
decreasing_by
  exact Prod.Lex.left _ _ (sizeOf_dict_mem (mem_of_get? _found))

def validateArray (xs : List Json) (schema : Items) (path : String) :
    Except SchemaError (List String) :=
  joined (checkLength texts xs schema path)
    (match _found : schema.get? "items" with
    | some (.dict itemSchema) => validateItems xs 0 itemSchema path
    | _ => .ok [])
termination_by (sizeOf schema, 0)
decreasing_by
  exact Prod.Lex.left _ _ (sizeOf_dict_mem (mem_of_get? _found))

def validateProperties (items properties : Items) (path : String) :
    Except SchemaError (List String) :=
  match properties with
  | [] => .ok []
  | (key, child) :: rest =>
    joined
      (match child, items.get? key with
      | .dict inner, some value => validateJsonSchema value inner (path ++ "." ++ key)
      | _, _ => .ok [])
      (validateProperties items rest path)
termination_by (sizeOf properties, 0)

def validateItems (xs : List Json) (index : Nat) (itemSchema : Items) (path : String) :
    Except SchemaError (List String) :=
  match xs with
  | [] => .ok []
  | x :: rest =>
    joined (validateJsonSchema x itemSchema (path ++ "[" ++ toString index ++ "]"))
      (validateItems rest (index + 1) itemSchema path)
termination_by (sizeOf itemSchema, 3 + xs.length)

/-- One of `allOf`, `anyOf` and `oneOf`; what is no list is passed over. -/
def validateChoices (value : Json) (schema : Items) (path keyword : String)
    (kept : Nat → Nat → Bool) : Except SchemaError (List String) :=
  match _found : schema.get? keyword with
  | some (.list choices) => do
    let matched ← countMatches value choices path
    if kept matched choices.length then return []
    else return [path ++ ": " ++ keyword ++ " constraint failed"]
  | _ => .ok []
termination_by (sizeOf schema, 0)
decreasing_by
  exact Prod.Lex.left _ _ (sizeOf_list_mem (mem_of_get? _found))

def countMatches (value : Json) (choices : List Json) (path : String) : Except SchemaError Nat :=
  match choices with
  | [] => .ok 0
  | .dict inner :: rest => do
    let violations ← validateJsonSchema value inner path
    let others ← countMatches value rest path
    return if violations = [] then others + 1 else others
  | _ :: rest => countMatches value rest path
termination_by (sizeOf choices, 0)

end

end Schema

structure CriterionScore where
  id : String
  score : ℚ
  passed : Bool
  reason : String
deriving DecidableEq, Repr

structure OutputScore where
  score : ℚ
  passed : Bool
  reasons : List String := []
  criterionScores : List CriterionScore := []
deriving DecidableEq, Repr

/-- `Field(ge=0, le=1)` -/
def Unit01 (q : ℚ) : Prop := 0 ≤ q ∧ q ≤ 1

instance (q : ℚ) : Decidable (Unit01 q) := inferInstanceAs (Decidable (_ ∧ _))

def OutputScore.validated (score : OutputScore) : Except EvaluationError OutputScore :=
  if Unit01 score.score then .ok score else .error (.validation "OutputScore" "score")

section Scores

variable (texts : Texts)

def haystack : Json → String
  | .text s => s
  | output => texts.dumps output

def scoreContains (contract : ExpectedOutputContract) (actual : Json) :
    Except EvaluationError OutputScore :=
  let fold := fun text => if contract.tolerance.caseSensitive then text else texts.casefold text
  let text := fold (haystack texts actual)
  let fragments := contract.contains.map fold
  let matched := fragments.filter fun fragment => includes text fragment
  let score := (matched.length : ℚ) / fragments.length
  let passed := decide (contract.tolerance.minimumMatchRatio ≤ score)
  let missing := fragments.filter fun fragment => fragment ∉ matched
  OutputScore.validated
    { score := score
      passed := passed
      reasons := if passed then [] else
        ["missing required fragments: " ++ texts.formatList missing] }

def clamped (q : ℚ) : ℚ := max 0 (min 1 q)

def criterionScore (supplied : List (String × ℚ)) (criterion : RubricCriterion) : CriterionScore :=
  let raw := ((supplied.find? fun score => score.1 = criterion.id).map Prod.snd).getD 0
  let score := clamped raw
  let passed := decide (criterion.minimumScore ≤ score)
  { id := criterion.id
    score := score
    passed := passed
    reason := if passed then "criterion satisfied"
      else "score " ++ texts.formatScore score ++ " below minimum " ++
        texts.formatScore criterion.minimumScore }

/-- `sum(weight * score) / sum(weight)` -/
def weightedAverage (entries : List (ℚ × ℚ)) : ℚ :=
  (entries.map fun entry => entry.1 * entry.2).sum / (entries.map Prod.fst).sum

def scoreWeightedRubric (contract : ExpectedOutputContract) (supplied : List (String × ℚ)) :
    Except EvaluationError OutputScore :=
  let results := contract.rubric.map (criterionScore texts supplied)
  OutputScore.validated
    { score := weightedAverage (contract.rubric.map fun criterion =>
        (criterion.weight, (criterionScore texts supplied criterion).score))
      passed := results.all CriterionScore.passed
      reasons := (results.filter fun result => !result.passed).map CriterionScore.reason
      criterionScores := results }

/-- `score_output` -/
def scoreOutput (contract : ExpectedOutputContract) (actual : Json) (rubricScores : List (String × ℚ)) :
    Except EvaluationError OutputScore :=
  match contract.scorer with
  | .exact => do
    let passed ← valuesEqual texts contract.tolerance actual contract.exactValue
    OutputScore.validated
      { score := if passed then 1 else 0
        passed := passed
        reasons := if passed then [] else ["output does not exactly match expected value"] }
  | .jsonSchema => do
    let violations ← (validateJsonSchema texts actual (contract.jsonSchema.getD []) "$").mapError .schema
    OutputScore.validated
      { score := if violations = [] then 1 else 0
        passed := violations = []
        reasons := violations }
  | .contains => scoreContains texts contract actual
  | .weightedRubric => scoreWeightedRubric texts contract rubricScores

end Scores

end Taroai.Evaluation
