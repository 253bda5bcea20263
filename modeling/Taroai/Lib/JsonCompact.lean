import Taroai.Lib.JsonGrammar

/-! `json.dumps` with no blanks after commas and colons. Outside the strings only these are followed
by a blank in the spaced text, so the compact text determines the spaced one, and with it the
value. -/

namespace Taroai.Json

mutual

/-- `json.dumps(value, ensure_ascii=False, separators=(",", ":"))` -/
def dumpsCompact (float : Rat → String) : Json → List Char
  | .null => "null".toList
  | .bool b => if b then "true".toList else "false".toList
  | .int n => (toString n).toList
  | .float q => (float q).toList
  | .text s => quoteUnicode s
  | .list xs => '[' :: (List.intercalate [','] (dumpEachCompact float xs) ++ [']'])
  | .dict items => '{' :: (List.intercalate [','] (dumpItemsCompact float items) ++ ['}'])

def dumpEachCompact (float : Rat → String) : List Json → List (List Char)
  | [] => []
  | x :: xs => dumpsCompact float x :: dumpEachCompact float xs

def dumpItemsCompact (float : Rat → String) : List (String × Json) → List (List Char)
  | [] => []
  | (key, value) :: rest =>
    (quoteUnicode key ++ ':' :: dumpsCompact float value) :: dumpItemsCompact float rest

end

inductive Spot where
  | outside
  | string
  | escape

def spaceOut : Spot → List Char → List Char
  | _, [] => []
  | .outside, c :: rest =>
    if c = '"' then c :: spaceOut .string rest
    else if c = ',' ∨ c = ':' then c :: ' ' :: spaceOut .outside rest
    else c :: spaceOut .outside rest
  | .string, c :: rest =>
    if c = '"' then c :: spaceOut .outside rest
    else if c = '\\' then c :: spaceOut .escape rest
    else c :: spaceOut .string rest
  | .escape, c :: rest => c :: spaceOut .string rest

theorem spaceOut_body {body : List Char} (inside : StringBody body) (rest : List Char) :
    spaceOut .string (body ++ '"' :: rest) = body ++ '"' :: spaceOut .outside rest := by
  induction inside with
  | empty => simp [spaceOut]
  | char plain later ih => simp [spaceOut, plain.1, plain.2, ih]
  | escape c later ih => simp [spaceOut, ih]

theorem spaceOut_quote (s : String) (rest : List Char) :
    spaceOut .outside (quoteUnicode s ++ rest) = quoteUnicode s ++ spaceOut .outside rest := by
  have body := spaceOut_body (escaped_body s.toList) rest
  simpa [quoteUnicode, spaceOut] using body

def plainChar (c : Char) : Bool := !(c = '"' || c = ',' || c = ':')

theorem spaceOut_plain {text : List Char} (plain : text.all plainChar = true)
    (rest : List Char) : spaceOut .outside (text ++ rest) = text ++ spaceOut .outside rest := by
  induction text with
  | nil => rfl
  | cons c text ih =>
    rw [List.all_cons, Bool.and_eq_true] at plain
    obtain ⟨here, others⟩ := plain
    simp only [plainChar, Bool.not_eq_true', Bool.or_eq_false_iff, decide_eq_false_iff_not] at here
    obtain ⟨⟨no_quote, no_comma⟩, no_colon⟩ := here
    simp [spaceOut, no_quote, no_comma, no_colon, ih others]

theorem spaceOut_numeral {text : List Char} (number : text.all numberChar = true)
    (rest : List Char) : spaceOut .outside (text ++ rest) = text ++ spaceOut .outside rest := by
  refine spaceOut_plain (List.all_eq_true.mpr fun c among => ?_) rest
  have digit := List.all_eq_true.mp number c among
  have no_quote : c ≠ '"' := by
    rintro rfl
    exact absurd digit (by decide)
  have no_comma : c ≠ ',' := by
    rintro rfl
    exact absurd digit (by decide)
  have no_colon : c ≠ ':' := by
    rintro rfl
    exact absurd digit (by decide)
  simp [plainChar, no_quote, no_comma, no_colon]

theorem spaceOut_comma (rest : List Char) :
    spaceOut .outside (',' :: rest) = ',' :: ' ' :: spaceOut .outside rest := by
  simp [spaceOut]

theorem spaceOut_colon (rest : List Char) :
    spaceOut .outside (':' :: rest) = ':' :: ' ' :: spaceOut .outside rest := by
  simp [spaceOut]

theorem spaceOut_bracket {c : Char} (bracket : c ∈ ['[', ']', '{', '}']) (rest : List Char) :
    spaceOut .outside (c :: rest) = c :: spaceOut .outside rest := by
  simp only [List.mem_cons, List.not_mem_nil, or_false] at bracket
  rcases bracket with rfl | rfl | rfl | rfl <;> simp [spaceOut]

section
variable (F : FloatText)

mutual

theorem spaceOut_dumps : ∀ (x : Json) (rest : List Char),
    spaceOut .outside (dumpsCompact F.text x ++ rest) =
      dumpsUnicode F.text x ++ spaceOut .outside rest
  | .null, rest => by
    unfold dumpsCompact dumpsUnicode
    exact spaceOut_plain rfl rest
  | .bool true, rest => by
    unfold dumpsCompact dumpsUnicode
    exact spaceOut_plain rfl rest
  | .bool false, rest => by
    unfold dumpsCompact dumpsUnicode
    exact spaceOut_plain rfl rest
  | .int n, rest => by
    unfold dumpsCompact dumpsUnicode
    exact spaceOut_numeral (int_number n) rest
  | .float q, rest => by
    unfold dumpsCompact dumpsUnicode
    exact spaceOut_numeral (F.chars q) rest
  | .text s, rest => by
    unfold dumpsCompact dumpsUnicode
    exact spaceOut_quote s rest
  | .list xs, rest => by
    have inside := spaceOut_each xs (']' :: rest)
    unfold dumpsCompact dumpsUnicode
    simp only [List.cons_append, List.append_assoc, List.nil_append]
    rw [spaceOut_bracket (by simp), inside, spaceOut_bracket (by simp)]
  | .dict items, rest => by
    have inside := spaceOut_items items ('}' :: rest)
    unfold dumpsCompact dumpsUnicode
    simp only [List.cons_append, List.append_assoc, List.nil_append]
    rw [spaceOut_bracket (by simp), inside, spaceOut_bracket (by simp)]

theorem spaceOut_each : ∀ (xs : List Json) (rest : List Char),
    spaceOut .outside (List.intercalate [','] (dumpEachCompact F.text xs) ++ rest) =
      List.intercalate ", ".toList (dumpEachUnicode F.text xs) ++ spaceOut .outside rest
  | [], rest => rfl
  | [x], rest => by
    have only := spaceOut_dumps x rest
    simpa [dumpEachCompact, dumpEachUnicode] using only
  | x :: y :: xs, rest => by
    have later := spaceOut_each (y :: xs) rest
    have here := spaceOut_dumps x
      (',' :: (List.intercalate [','] (dumpEachCompact F.text (y :: xs)) ++ rest))
    rw [spaceOut_comma, later] at here
    simpa [dumpEachCompact, dumpEachUnicode] using here

theorem spaceOut_items : ∀ (items : List (String × Json)) (rest : List Char),
    spaceOut .outside (List.intercalate [','] (dumpItemsCompact F.text items) ++ rest) =
      List.intercalate ", ".toList (dumpItemsUnicode F.text items) ++ spaceOut .outside rest
  | [], rest => rfl
  | [(key, value)], rest => by
    have only := spaceOut_dumps value rest
    simp [dumpItemsCompact, dumpItemsUnicode, spaceOut_quote, spaceOut_colon, only]
  | (key, value) :: item :: items, rest => by
    have later := spaceOut_items (item :: items) rest
    have here := spaceOut_dumps value
      (',' :: (List.intercalate [','] (dumpItemsCompact F.text (item :: items)) ++ rest))
    rw [spaceOut_comma, later] at here
    obtain ⟨next_key, next_value⟩ := item
    simp only [dumpItemsCompact, dumpItemsUnicode, List.intercalate_cons_cons, List.append_assoc,
      List.cons_append, List.nil_append, spaceOut_quote, spaceOut_colon] at here ⊢
    rw [here]
    rfl

end

end

theorem dumpsCompact_injective {F : FloatText} {x y : Json}
    (same : dumpsCompact F.text x = dumpsCompact F.text y) : x = y := by
  have spaced (z : Json) : spaceOut .outside (dumpsCompact F.text z) = dumpsUnicode F.text z := by
    have whole := spaceOut_dumps F z []
    rwa [List.append_nil, spaceOut, List.append_nil] at whole
  refine dumpsUnicode_injective (F := F) ?_
  rw [← spaced x, ← spaced y, same]

end Taroai.Json
