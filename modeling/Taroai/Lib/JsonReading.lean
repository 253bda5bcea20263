import Taroai.Lib.JsonText
import Taroai.Lib.JsonUnicode
import Mathlib.Data.List.TakeWhile

/-! A JSON text has one reading: two values of the same text are the same value. Dictionaries are
written in the order of their items; with sorted keys the text is that of the canonical form. -/

namespace Taroai.Json

def intChar (c : Char) : Bool := c.isDigit || c = '-'

def numberChar (c : Char) : Bool := intChar c || c = '+' || c = '.' || c = 'e'

/-- How floats are written: as numbers, each in its own way, and never like an integer. -/
structure FloatText where
  text : Rat → String
  nonempty : ∀ q, (text q).toList ≠ []
  chars : ∀ q, (text q).toList.all numberChar = true
  injective : ∀ p q, text p = text q → p = q
  not_int : ∀ q (n : Int), text q ≠ toString n

theorem readChar_escapeUnicode (c : Char) (rest : List Char) :
    readChar (escapeUnicode c ++ rest) = some (c, rest) := by
  have escaped := readChar_escapeChar c rest
  unfold escapeChar at escaped
  unfold escapeUnicode
  split_ifs at escaped ⊢ with quoted slash newline carriage tab backspace feed control plain short
  all_goals first
    | exact escaped
    | (exfalso; omega)
    | (rw [List.singleton_append, readChar.eq_def]
       dsimp only
       rw [if_neg slash, if_neg control])

theorem escapeUnicode_head (c : Char) (rest : List Char) :
    (escapeUnicode c ++ rest).head? ≠ some '"' := by
  unfold escapeUnicode
  split_ifs with quoted <;> simp [unicodeEscape, quoted]

theorem escaped_unique {s t r r' : List Char}
    (same : s.flatMap escapeUnicode ++ '"' :: r = t.flatMap escapeUnicode ++ '"' :: r') :
    s = t ∧ r = r' := by
  induction s generalizing t with
  | nil =>
    cases t with
    | nil => exact ⟨rfl, (List.cons.inj same).2⟩
    | cons d t =>
      rw [List.flatMap_cons, List.append_assoc] at same
      exact absurd (congrArg List.head? same).symm (escapeUnicode_head d _)
  | cons c s ih =>
    cases t with
    | nil =>
      rw [List.flatMap_cons, List.append_assoc] at same
      exact absurd (congrArg List.head? same) (escapeUnicode_head c _)
    | cons d t =>
      rw [List.flatMap_cons, List.flatMap_cons, List.append_assoc, List.append_assoc] at same
      have read := congrArg readChar same
      rw [readChar_escapeUnicode, readChar_escapeUnicode, Option.some.injEq, Prod.mk.injEq] at read
      obtain ⟨rfl, rest⟩ := read
      obtain ⟨rfl, rfl⟩ := ih rest
      exact ⟨rfl, rfl⟩

theorem quoteUnicode_unique {s t : String} {r r' : List Char}
    (same : quoteUnicode s ++ r = quoteUnicode t ++ r') : s = t ∧ r = r' := by
  simp only [quoteUnicode, List.cons_append, List.append_assoc, List.nil_append] at same
  obtain ⟨chars, rest⟩ := escaped_unique (List.cons.inj same).2
  exact ⟨String.toList_inj.mp chars, rest⟩

def Ends (rest : List Char) : Prop := ∀ c ∈ rest.head?, c = ',' ∨ c = ']' ∨ c = '}'

theorem ends_nil : Ends [] := fun _ none => nomatch none

theorem ends_comma (rest : List Char) : Ends (',' :: rest) := by
  rintro c ⟨⟩
  exact .inl rfl

theorem ends_bracket (rest : List Char) : Ends (']' :: rest) := by
  rintro c ⟨⟩
  exact .inr (.inl rfl)

theorem ends_brace (rest : List Char) : Ends ('}' :: rest) := by
  rintro c ⟨⟩
  exact .inr (.inr rfl)

theorem takeWhile_kept {p : Char → Bool} {a r : List Char} (kept : a.all p = true)
    (stops : ∀ c ∈ r.head?, p c = false) : (a ++ r).takeWhile p = a := by
  rw [List.takeWhile_append_of_pos (List.all_eq_true.mp kept)]
  cases r with
  | nil => simp
  | cons c r => simp [stops c rfl]

theorem append_unique {p : Char → Bool} {a b r s : List Char} (kept_a : a.all p = true)
    (kept_b : b.all p = true) (stops_r : ∀ c ∈ r.head?, p c = false)
    (stops_s : ∀ c ∈ s.head?, p c = false) (same : a ++ r = b ++ s) : a = b ∧ r = s := by
  have parts : a = b := by
    rw [← takeWhile_kept kept_a stops_r, same, takeWhile_kept kept_b stops_s]
  subst parts
  exact ⟨rfl, List.append_cancel_left same⟩

theorem Ends.stops {r : List Char} (ends : Ends r) : ∀ c ∈ r.head?, numberChar c = false := by
  intro c first
  obtain rfl | rfl | rfl := ends c first <;> decide

theorem number_unique {a b r s : List Char} (number_a : a.all numberChar = true)
    (number_b : b.all numberChar = true) (ends_r : Ends r) (ends_s : Ends s)
    (same : a ++ r = b ++ s) : a = b ∧ r = s :=
  append_unique number_a number_b ends_r.stops ends_s.stops same

theorem digits_chars (n : Nat) : n.repr.toList.all intChar = true := by
  rw [List.all_eq_true]
  intro c among
  rw [Nat.toList_repr] at among
  simp [intChar, Nat.isDigit_of_mem_toDigits (by decide) (by decide) among]

theorem int_chars (n : Int) : (toString n).toList.all intChar = true := by
  show (Int.repr n).toList.all intChar = true
  cases n with
  | ofNat n => exact digits_chars n
  | negSucc n =>
    rw [Int.repr, String.toList_append, List.all_append, digits_chars]
    decide

theorem int_number (n : Int) : (toString n).toList.all numberChar = true := by
  rw [List.all_eq_true]
  intro c among
  simp [numberChar, List.all_eq_true.mp (int_chars n) c among]

theorem int_nonempty (n : Int) : (toString n).toList ≠ [] := by
  show (Int.repr n).toList ≠ []
  cases n with
  | ofNat n => simp [Int.repr]
  | negSucc n => simp [Int.repr, String.toList_append]

theorem digits_injective {m n : Nat} (same : m.repr.toList = n.repr.toList) : m = n := by
  rw [Nat.toList_repr, Nat.toList_repr] at same
  rw [← Nat.ofDigitChars_toDigits (b := 10) (n := m) (by decide) (by decide), same,
    Nat.ofDigitChars_toDigits (by decide) (by decide)]

theorem minus_notMem_digits (n : Nat) : '-' ∉ n.repr.toList := by
  intro among
  rw [Nat.toList_repr] at among
  exact absurd (Nat.isDigit_of_mem_toDigits (by decide) (by decide) among) (by decide)

theorem int_injective {m n : Int} (same : (toString m).toList = (toString n).toList) : m = n := by
  replace same : (Int.repr m).toList = (Int.repr n).toList := same
  cases m with
  | ofNat m =>
    cases n with
    | ofNat n => rw [digits_injective same]
    | negSucc n =>
      rw [Int.repr, Int.repr, String.toList_append] at same
      exact absurd (same ▸ List.mem_append_left _ (by decide)) (minus_notMem_digits m)
  | negSucc m =>
    cases n with
    | ofNat n =>
      rw [Int.repr, Int.repr, String.toList_append] at same
      exact absurd (same.symm ▸ List.mem_append_left _ (by decide)) (minus_notMem_digits n)
    | negSucc n =>
      rw [Int.repr, Int.repr, String.toList_append, String.toList_append] at same
      have digits := digits_injective (List.append_cancel_left same)
      rw [Nat.succ.inj digits]

def lead (c : Char) : Nat :=
  if c = 'n' then 0 else if c = 't' then 1 else if c = 'f' then 2 else if c = '"' then 3
  else if c = '[' then 4 else if c = '{' then 5 else if c = ']' then 6 else if c = '}' then 7
  else 8

def leadOf : Json → Nat
  | .null => 0
  | .bool true => 1
  | .bool false => 2
  | .text _ => 3
  | .list _ => 4
  | .dict _ => 5
  | .int _ | .float _ => 8

theorem lead_number {c : Char} (number : numberChar c = true) : lead c = 8 := by
  have other : ∀ d : Char, numberChar d = false → c ≠ d := by
    rintro d not_number rfl
    rw [number] at not_number
    cases not_number
  rw [lead, if_neg (other 'n' (by decide)), if_neg (other 't' (by decide)),
    if_neg (other 'f' (by decide)), if_neg (other '"' (by decide)), if_neg (other '[' (by decide)),
    if_neg (other '{' (by decide)), if_neg (other ']' (by decide)), if_neg (other '}' (by decide))]

theorem lead_numeral {a : List Char} (nonempty : a ≠ []) (number : a.all numberChar = true)
    (r : List Char) : ∃ c rest, a ++ r = c :: rest ∧ lead c = 8 := by
  cases a with
  | nil => exact absurd rfl nonempty
  | cons c a =>
    rw [List.all_cons, Bool.and_eq_true] at number
    exact ⟨c, a ++ r, rfl, lead_number number.1⟩

section
variable (F : FloatText)

theorem lead_dumps (x : Json) (r : List Char) :
    ∃ c rest, dumpsUnicode F.text x ++ r = c :: rest ∧ lead c = leadOf x := by
  cases x with
  | null => exact ⟨_, _, rfl, rfl⟩
  | bool b => cases b <;> exact ⟨_, _, rfl, rfl⟩
  | int n =>
    unfold dumpsUnicode
    exact lead_numeral (int_nonempty n) (int_number n) r
  | float q =>
    unfold dumpsUnicode
    exact lead_numeral (F.nonempty q) (F.chars q) r
  | text s => exact ⟨_, _, rfl, rfl⟩
  | list xs => exact ⟨_, _, rfl, rfl⟩
  | dict items => exact ⟨_, _, rfl, rfl⟩

def laterText : List Json → List Char
  | [] => [']']
  | x :: xs => ',' :: ' ' :: (dumpsUnicode F.text x ++ laterText xs)

def laterItems : List (String × Json) → List Char
  | [] => ['}']
  | (key, value) :: rest =>
    ',' :: ' ' :: (quoteUnicode key ++ (':' :: ' ' :: (dumpsUnicode F.text value ++ laterItems rest)))

variable {F}

theorem leadOf_eq {x y : Json} {r s : List Char}
    (same : dumpsUnicode F.text x ++ r = dumpsUnicode F.text y ++ s) : leadOf x = leadOf y := by
  obtain ⟨c, rest, text_x, lead_x⟩ := lead_dumps F x r
  obtain ⟨d, rest', text_y, lead_y⟩ := lead_dumps F y s
  rw [text_x, text_y] at same
  rw [← lead_x, ← lead_y, (List.cons.inj same).1]

theorem intercalate_cons (sep part : List Char) (parts : List (List Char)) :
    List.intercalate sep (part :: parts) = part ++ parts.flatMap fun other => sep ++ other := by
  induction parts generalizing part with
  | nil => simp [List.intercalate]
  | cons next parts ih =>
    rw [List.flatMap_cons, List.append_assoc, ← ih next]
    simp [List.intercalate]

theorem laterText_eq (xs : List Json) :
    (dumpEachUnicode F.text xs).flatMap (fun part => ", ".toList ++ part) ++ [']'] =
      laterText F xs := by
  induction xs with
  | nil => rfl
  | cons x xs ih =>
    rw [dumpEachUnicode, laterText, ← ih, List.flatMap_cons, List.append_assoc, List.append_assoc]
    rfl

theorem laterItems_eq (items : List (String × Json)) :
    (dumpItemsUnicode F.text items).flatMap (fun part => ", ".toList ++ part) ++ ['}'] =
      laterItems F items := by
  induction items with
  | nil => rfl
  | cons item items ih =>
    obtain ⟨key, value⟩ := item
    rw [dumpItemsUnicode, laterItems, ← ih, List.flatMap_cons]
    simp only [List.append_assoc]
    rfl

theorem dumps_list_nil (r : List Char) :
    dumpsUnicode F.text (.list []) ++ r = '[' :: ']' :: r := rfl

theorem dumps_list_cons (x : Json) (xs : List Json) (r : List Char) :
    dumpsUnicode F.text (.list (x :: xs)) ++ r =
      '[' :: (dumpsUnicode F.text x ++ (laterText F xs ++ r)) := by
  rw [dumpsUnicode, dumpEachUnicode, intercalate_cons, List.append_assoc, laterText_eq,
    List.cons_append, List.append_assoc]

theorem dumps_dict_nil (r : List Char) :
    dumpsUnicode F.text (.dict []) ++ r = '{' :: '}' :: r := rfl

theorem dumps_dict_cons (key : String) (value : Json) (rest : List (String × Json))
    (r : List Char) : dumpsUnicode F.text (.dict ((key, value) :: rest)) ++ r =
      '{' :: (quoteUnicode key ++
        (':' :: ' ' :: (dumpsUnicode F.text value ++ (laterItems F rest ++ r)))) := by
  rw [dumpsUnicode, dumpItemsUnicode, intercalate_cons, List.append_assoc, laterItems_eq]
  simp only [List.append_assoc, List.cons_append]
  rfl

theorem laterText_cons (x : Json) (xs : List Json) (r : List Char) :
    laterText F (x :: xs) ++ r = ',' :: ' ' :: (dumpsUnicode F.text x ++ (laterText F xs ++ r)) := by
  rw [laterText, List.cons_append, List.cons_append, List.append_assoc]

theorem laterItems_cons (key : String) (value : Json) (rest : List (String × Json))
    (r : List Char) : laterItems F ((key, value) :: rest) ++ r =
      ',' :: ' ' :: (quoteUnicode key ++
        (':' :: ' ' :: (dumpsUnicode F.text value ++ (laterItems F rest ++ r)))) := by
  rw [laterItems]
  simp only [List.append_assoc, List.cons_append]

theorem dumps_not_bracket (x : Json) (r s : List Char) : dumpsUnicode F.text x ++ r ≠ ']' :: s := by
  intro same
  obtain ⟨c, rest, text_x, lead_x⟩ := lead_dumps F x r
  rw [same] at text_x
  rw [← (List.cons.inj text_x).1] at lead_x
  cases x with
  | bool b => cases b <;> cases lead_x
  | null | int _ | float _ | text _ | list _ | dict _ => cases lead_x

theorem quote_not_brace (key : String) (r s : List Char) : quoteUnicode key ++ r ≠ '}' :: s := by
  intro same
  cases (List.cons.inj same).1

theorem ends_laterText (xs : List Json) (r : List Char) : Ends (laterText F xs ++ r) := by
  cases xs with
  | nil => exact ends_bracket r
  | cons x xs => exact ends_comma _

theorem ends_laterItems (items : List (String × Json)) (r : List Char) :
    Ends (laterItems F items ++ r) := by
  cases items with
  | nil => exact ends_brace r
  | cons item items => exact ends_comma _

theorem number_text_unique {a b : String} {r s : List Char} (number_a : a.toList.all numberChar = true)
    (number_b : b.toList.all numberChar = true) (ends_r : Ends r) (ends_s : Ends s)
    (same : a.toList ++ r = b.toList ++ s) : a = b ∧ r = s := by
  obtain ⟨chars, rest⟩ := number_unique number_a number_b ends_r ends_s same
  exact ⟨String.toList_inj.mp chars, rest⟩

mutual

theorem dumps_unique : ∀ {x y : Json} {r s : List Char}, Ends r → Ends s →
    dumpsUnicode F.text x ++ r = dumpsUnicode F.text y ++ s → x = y ∧ r = s
  | .null, y, r, s, _, _, same => by
    have kind := leadOf_eq same
    cases y with
    | null => exact ⟨rfl, List.append_cancel_left same⟩
    | bool b => cases b <;> cases kind
    | int _ | float _ | text _ | list _ | dict _ => cases kind
  | .bool a, y, r, s, _, _, same => by
    have kind := leadOf_eq same
    cases y with
    | bool b =>
      cases a with
      | true =>
        cases b with
        | true => exact ⟨rfl, List.append_cancel_left same⟩
        | false => cases kind
      | false =>
        cases b with
        | true => cases kind
        | false => exact ⟨rfl, List.append_cancel_left same⟩
    | null | int _ | float _ | text _ | list _ | dict _ => cases a <;> cases kind
  | .int m, y, r, s, ends_r, ends_s, same => by
    have kind := leadOf_eq same
    cases y with
    | int n =>
      unfold dumpsUnicode at same
      obtain ⟨digits, rest⟩ := number_text_unique (int_number m) (int_number n) ends_r ends_s same
      exact ⟨congrArg Json.int (int_injective (congrArg String.toList digits)), rest⟩
    | float q =>
      unfold dumpsUnicode at same
      obtain ⟨digits, -⟩ := number_text_unique (int_number m) (F.chars q) ends_r ends_s same
      exact absurd digits.symm (F.not_int q m)
    | bool b => cases b <;> cases kind
    | null | text _ | list _ | dict _ => cases kind
  | .float p, y, r, s, ends_r, ends_s, same => by
    have kind := leadOf_eq same
    cases y with
    | int n =>
      unfold dumpsUnicode at same
      obtain ⟨digits, -⟩ := number_text_unique (F.chars p) (int_number n) ends_r ends_s same
      exact absurd digits (F.not_int p n)
    | float q =>
      unfold dumpsUnicode at same
      obtain ⟨digits, rest⟩ := number_text_unique (F.chars p) (F.chars q) ends_r ends_s same
      exact ⟨congrArg Json.float (F.injective p q digits), rest⟩
    | bool b => cases b <;> cases kind
    | null | text _ | list _ | dict _ => cases kind
  | .text a, y, r, s, _, _, same => by
    have kind := leadOf_eq same
    cases y with
    | text b =>
      unfold dumpsUnicode at same
      obtain ⟨rfl, rest⟩ := quoteUnicode_unique same
      exact ⟨rfl, rest⟩
    | bool b => cases b <;> cases kind
    | null | int _ | float _ | list _ | dict _ => cases kind
  | .list [], y, r, s, _, _, same => by
    have kind := leadOf_eq same
    cases y with
    | list ys =>
      cases ys with
      | nil => exact ⟨rfl, List.append_cancel_left same⟩
      | cons y ys =>
        rw [dumps_list_nil, dumps_list_cons] at same
        exact absurd (List.cons.inj same).2.symm (dumps_not_bracket y _ _)
    | bool b => cases b <;> cases kind
    | null | int _ | float _ | text _ | dict _ => cases kind
  | .list (x :: xs), y, r, s, _, _, same => by
    have kind := leadOf_eq same
    cases y with
    | list ys =>
      cases ys with
      | nil =>
        rw [dumps_list_nil, dumps_list_cons] at same
        exact absurd (List.cons.inj same).2 (dumps_not_bracket x _ _)
      | cons y ys =>
        rw [dumps_list_cons, dumps_list_cons] at same
        obtain ⟨rfl, later⟩ := dumps_unique (ends_laterText xs r) (ends_laterText ys s)
          (List.cons.inj same).2
        obtain ⟨rfl, rest⟩ := laterText_unique later
        exact ⟨rfl, rest⟩
    | bool b => cases b <;> cases kind
    | null | int _ | float _ | text _ | dict _ => cases kind
  | .dict [], y, r, s, _, _, same => by
    have kind := leadOf_eq same
    cases y with
    | dict others =>
      cases others with
      | nil => exact ⟨rfl, List.append_cancel_left same⟩
      | cons item others =>
        rw [dumps_dict_nil, dumps_dict_cons] at same
        exact absurd (List.cons.inj same).2.symm (quote_not_brace _ _ _)
    | bool b => cases b <;> cases kind
    | null | int _ | float _ | text _ | list _ => cases kind
  | .dict ((key, value) :: items), y, r, s, _, _, same => by
    have kind := leadOf_eq same
    cases y with
    | dict others =>
      cases others with
      | nil =>
        rw [dumps_dict_nil, dumps_dict_cons] at same
        exact absurd (List.cons.inj same).2 (quote_not_brace _ _ _)
      | cons item others =>
        obtain ⟨other, found⟩ := item
        rw [dumps_dict_cons, dumps_dict_cons] at same
        obtain ⟨rfl, colon⟩ := quoteUnicode_unique (List.cons.inj same).2
        obtain ⟨rfl, later⟩ := dumps_unique (ends_laterItems items r) (ends_laterItems others s)
          (List.cons.inj (List.cons.inj colon).2).2
        obtain ⟨rfl, rest⟩ := laterItems_unique later
        exact ⟨rfl, rest⟩
    | bool b => cases b <;> cases kind
    | null | int _ | float _ | text _ | list _ => cases kind

theorem laterText_unique : ∀ {xs ys : List Json} {r s : List Char},
    laterText F xs ++ r = laterText F ys ++ s → xs = ys ∧ r = s
  | [], [], r, s, same => ⟨rfl, List.append_cancel_left same⟩
  | [], y :: ys, r, s, same => by cases (List.cons.inj same).1
  | x :: xs, [], r, s, same => by cases (List.cons.inj same).1
  | x :: xs, y :: ys, r, s, same => by
    rw [laterText_cons, laterText_cons] at same
    obtain ⟨rfl, later⟩ := dumps_unique (ends_laterText xs r) (ends_laterText ys s)
      (List.cons.inj (List.cons.inj same).2).2
    obtain ⟨rfl, rest⟩ := laterText_unique later
    exact ⟨rfl, rest⟩

theorem laterItems_unique : ∀ {items others : List (String × Json)} {r s : List Char},
    laterItems F items ++ r = laterItems F others ++ s → items = others ∧ r = s
  | [], [], r, s, same => ⟨rfl, List.append_cancel_left same⟩
  | [], _ :: _, r, s, same => by cases (List.cons.inj same).1
  | _ :: _, [], r, s, same => by cases (List.cons.inj same).1
  | (key, value) :: items, (other, found) :: others, r, s, same => by
    rw [laterItems_cons, laterItems_cons] at same
    obtain ⟨rfl, colon⟩ := quoteUnicode_unique (List.cons.inj (List.cons.inj same).2).2
    obtain ⟨rfl, later⟩ := dumps_unique (ends_laterItems items r) (ends_laterItems others s)
      (List.cons.inj (List.cons.inj colon).2).2
    obtain ⟨rfl, rest⟩ := laterItems_unique later
    exact ⟨rfl, rest⟩

end

theorem dumpsUnicode_injective {x y : Json}
    (same : dumpsUnicode F.text x = dumpsUnicode F.text y) : x = y :=
  (dumps_unique (r := []) (s := []) ends_nil ends_nil (by rw [same])).1

end

mutual

def canonical : Json → Json
  | .null => .null
  | .bool b => .bool b
  | .int n => .int n
  | .float q => .float q
  | .text s => .text s
  | .list xs => .list (canonicalEach xs)
  | .dict items => .dict ((canonicalItems items).insertionSort fun a b => a.1 ≤ b.1)

def canonicalEach : List Json → List Json
  | [] => []
  | x :: xs => canonical x :: canonicalEach xs

def canonicalItems : List (String × Json) → List (String × Json)
  | [] => []
  | (key, value) :: rest => (key, canonical value) :: canonicalItems rest

end

mutual

/-- As Python holds it: no dictionary has a key twice. -/
def Proper : Json → Prop
  | .null | .bool _ | .int _ | .float _ | .text _ => True
  | .list xs => ProperEach xs
  | .dict items => (items.map Prod.fst).Nodup ∧ ProperItems items

def ProperEach : List Json → Prop
  | [] => True
  | x :: xs => Proper x ∧ ProperEach xs

def ProperItems : List (String × Json) → Prop
  | [] => True
  | (_, value) :: rest => Proper value ∧ ProperItems rest

end

/-- `json.dumps(value, ensure_ascii=False, sort_keys=True)` -/
def dumpsSorted (float : Rat → String) (x : Json) : List Char := dumpsUnicode float (canonical x)

theorem canonicalItems_eq (items : List (String × Json)) :
    canonicalItems items = items.map fun item => (item.1, canonical item.2) := by
  induction items with
  | nil => rfl
  | cons item items ih => rw [canonicalItems, ih, List.map_cons]

theorem ProperItems.of_mem {items : List (String × Json)} (proper : ProperItems items)
    {item : String × Json} (among : item ∈ items) : Proper item.2 := by
  induction items with
  | nil => cases among
  | cons first items ih =>
    rw [ProperItems] at proper
    cases among with
    | head => exact proper.1
    | tail _ later => exact ih proper.2 later

theorem ProperItems.intro {items : List (String × Json)}
    (proper : ∀ item ∈ items, Proper item.2) : ProperItems items := by
  induction items with
  | nil => rw [ProperItems]; trivial
  | cons first items ih =>
    rw [ProperItems]
    exact ⟨proper first List.mem_cons_self,
      ih fun item among => proper item (List.mem_cons_of_mem _ among)⟩

theorem get?_of_nodup {items : Items} (distinct : (items.map Prod.fst).Nodup) {key : String}
    {value : Json} (among : (key, value) ∈ items) : items.get? key = some value := by
  induction items with
  | nil => cases among
  | cons first items ih =>
    rw [List.map_cons, List.nodup_cons] at distinct
    rw [Items.get?, List.find?_cons]
    cases among with
    | head => simp
    | tail _ later =>
      have other : first.1 ≠ key := by
        rintro rfl
        exact distinct.1 (List.mem_map.mpr ⟨(first.1, value), later, rfl⟩)
      simpa [other, Items.get?] using ih distinct.2 later

theorem perm_of_canonical {items others : List (String × Json)}
    (same : canonical (.dict items) = canonical (.dict others)) :
    (canonicalItems items).Perm (canonicalItems others) := by
  rw [canonical, canonical, Json.dict.injEq] at same
  have sorted := List.perm_insertionSort (fun a b : String × Json => a.1 ≤ b.1) (canonicalItems items)
  rw [same] at sorted
  exact sorted.symm.trans (List.perm_insertionSort _ _)

mutual

def Alike : Json → Json → Prop
  | .null, y => y = .null
  | .bool b, y => y = .bool b
  | .int n, y => y = .int n
  | .float q, y => y = .float q
  | .text s, y => y = .text s
  | .list xs, y => ∃ ys, y = .list ys ∧ AlikeEach xs ys
  | .dict items, y =>
    ∃ others : Items, y = .dict others ∧ items.length = others.length ∧ AlikeItems items others

def AlikeEach : List Json → List Json → Prop
  | [], ys => ys = []
  | x :: xs, ys => ∃ z zs, ys = z :: zs ∧ Alike x z ∧ AlikeEach xs zs

def AlikeItems : List (String × Json) → Items → Prop
  | [], _ => True
  | (key, value) :: rest, others =>
    (∃ other, others.get? key = some other ∧ Alike value other) ∧ AlikeItems rest others

end

mutual

theorem alike_of_canonical : ∀ {x y : Json}, Proper x → Proper y → canonical x = canonical y →
    Alike x y
  | .null, y, _, _, same => by
    cases y <;> simp_all [canonical, Alike]
  | .bool a, y, _, _, same => by
    cases y <;> simp_all [canonical, Alike]
  | .int m, y, _, _, same => by
    cases y <;> simp_all [canonical, Alike]
  | .float p, y, _, _, same => by
    cases y <;> simp_all [canonical, Alike]
  | .text a, y, _, _, same => by
    cases y <;> simp_all [canonical, Alike]
  | .list xs, y, proper_x, proper_y, same => by
    cases y with
    | list ys =>
      rw [canonical, canonical, Json.list.injEq] at same
      rw [Proper] at proper_x proper_y
      rw [Alike]
      exact ⟨ys, rfl, alikeEach_of_canonical proper_x proper_y same⟩
    | null | bool _ | int _ | float _ | text _ | dict _ => simp [canonical] at same
  | .dict items, y, proper_x, proper_y, same => by
    cases y with
    | dict others =>
      have perm := perm_of_canonical same
      have lengths := perm.length_eq
      rw [canonicalItems_eq, canonicalItems_eq, List.length_map, List.length_map] at lengths
      rw [Proper] at proper_x proper_y
      rw [Alike]
      refine ⟨others, rfl, lengths, alikeItems_of_canonical proper_x.2 proper_y.1 proper_y.2 ?_⟩
      intro item among
      rw [← canonicalItems_eq]
      refine perm.mem_iff.mp ?_
      rw [canonicalItems_eq]
      exact List.mem_map_of_mem among
    | null | bool _ | int _ | float _ | text _ | list _ => simp [canonical] at same

theorem alikeEach_of_canonical : ∀ {xs ys : List Json}, ProperEach xs → ProperEach ys →
    canonicalEach xs = canonicalEach ys → AlikeEach xs ys
  | [], ys, _, _, same => by
    cases ys with
    | nil => rfl
    | cons y ys => simp [canonicalEach] at same
  | x :: xs, ys, proper_xs, proper_ys, same => by
    cases ys with
    | nil => simp [canonicalEach] at same
    | cons y ys =>
      rw [canonicalEach, canonicalEach, List.cons.injEq] at same
      rw [ProperEach] at proper_xs proper_ys
      exact ⟨y, ys, rfl, alike_of_canonical proper_xs.1 proper_ys.1 same.1,
        alikeEach_of_canonical proper_xs.2 proper_ys.2 same.2⟩

theorem alikeItems_of_canonical : ∀ {items : List (String × Json)} {others : Items},
    ProperItems items → (others.map Prod.fst).Nodup → ProperItems others →
    (∀ item ∈ items, (item.1, canonical item.2) ∈
      others.map fun other => (other.1, canonical other.2)) → AlikeItems items others
  | [], _, _, _, _, _ => trivial
  | (key, value) :: rest, others, proper, distinct, proper_others, among => by
    rw [ProperItems] at proper
    obtain ⟨other, among_others, same⟩ := List.mem_map.mp (among (key, value) List.mem_cons_self)
    obtain ⟨found, contents⟩ := other
    obtain ⟨rfl, same⟩ := Prod.mk.inj same
    have here := alike_of_canonical proper.1 (proper_others.of_mem among_others) same.symm
    have later := alikeItems_of_canonical proper.2 distinct proper_others
      fun item later => among item (List.mem_cons_of_mem _ later)
    exact ⟨⟨contents, get?_of_nodup distinct among_others, here⟩, later⟩

end

mutual

theorem canonical_of_alike : ∀ {x y : Json}, Proper x → Alike x y → canonical x = canonical y
  | .null, _, _, rfl | .bool _, _, _, rfl | .int _, _, _, rfl | .float _, _, _, rfl
  | .text _, _, _, rfl => rfl
  | .list xs, _, proper, ⟨ys, rfl, each⟩ => by
    rw [Proper] at proper
    rw [canonical, canonical, canonicalEach_of_alike proper each]
  | .dict items, _, proper, ⟨others, rfl, lengths, each⟩ => by
    rw [Proper] at proper
    have among := canonicalItems_of_alike proper.2 each
    have keys : (canonicalItems items).map Prod.fst = items.map Prod.fst := by
      rw [canonicalItems_eq, List.map_map]
      rfl
    have distinct : ((canonicalItems items).map Prod.fst).Nodup := keys ▸ proper.1
    have perm : (canonicalItems items).Perm (canonicalItems others) := by
      refine (List.subperm_of_subset distinct.of_map among).perm_of_length_le ?_
      rw [canonicalItems_eq, canonicalItems_eq, List.length_map, List.length_map, lengths]
    have order := List.pairwise_insertionSort (fun a b : String × Json => a.1 ≤ b.1)
    rw [canonical, canonical]
    have sorted := List.perm_insertionSort (fun a b : String × Json => a.1 ≤ b.1)
    refine congrArg Json.dict (List.Perm.eq_of_pairwise (fun a b ha hb below above => ?_)
      (order _) (order _) ((sorted _).trans (perm.trans (sorted _).symm)))
    refine List.inj_on_of_nodup_map distinct ((sorted _).mem_iff.mp ha)
      (perm.mem_iff.mpr ((sorted _).mem_iff.mp hb)) (String.le_antisymm below above)

theorem canonicalEach_of_alike : ∀ {xs ys : List Json}, ProperEach xs → AlikeEach xs ys →
    canonicalEach xs = canonicalEach ys
  | [], _, _, rfl => rfl
  | x :: xs, _, proper, ⟨y, ys, rfl, here, later⟩ => by
    rw [ProperEach] at proper
    rw [canonicalEach, canonicalEach, canonical_of_alike proper.1 here,
      canonicalEach_of_alike proper.2 later]

theorem canonicalItems_of_alike : ∀ {items : List (String × Json)} {others : Items},
    ProperItems items → AlikeItems items others → canonicalItems items ⊆ canonicalItems others
  | [], _, _, _ => List.nil_subset _
  | (key, value) :: rest, others, proper, ⟨⟨other, found, here⟩, later⟩ => by
    rw [ProperItems] at proper
    have same := canonical_of_alike proper.1 here
    rw [canonicalItems, List.cons_subset, same]
    refine ⟨?_, canonicalItems_of_alike proper.2 later⟩
    rw [canonicalItems_eq]
    exact List.mem_map_of_mem (mem_of_get? found)

end

/-- What a document says does not depend on the order of its keys, and the canonical form keeps
all of it. -/
theorem canonical_eq_iff {x y : Json} (proper_x : Proper x) (proper_y : Proper y) :
    canonical x = canonical y ↔ Alike x y :=
  ⟨alike_of_canonical proper_x proper_y, canonical_of_alike proper_x⟩

mutual

theorem same_of_alike : ∀ {x y : Json}, Alike x y → same x y = true
  | .null, _, rfl => by rw [same]
  | .bool b, _, rfl => by simp [same, number?]
  | .int n, _, rfl => by simp [same, number?]
  | .float q, _, rfl => by simp [same, number?]
  | .text s, _, rfl => by simp [same]
  | .list xs, _, ⟨ys, rfl, each⟩ => by
    rw [same]
    exact sameAll_of_alike each
  | .dict items, _, ⟨others, rfl, lengths, each⟩ => by
    rw [same, sameItems_of_alike each, decide_eq_true lengths]
    rfl

theorem sameAll_of_alike : ∀ {xs ys : List Json}, AlikeEach xs ys → sameAll xs ys = true
  | [], _, rfl => rfl
  | x :: xs, _, ⟨y, ys, rfl, here, later⟩ => by
    rw [sameAll, same_of_alike here, sameAll_of_alike later]
    rfl

theorem sameItems_of_alike : ∀ {items : List (String × Json)} {others : Items},
    AlikeItems items others → sameItems items others = true
  | [], _, _ => rfl
  | (key, value) :: rest, others, ⟨⟨other, found, here⟩, later⟩ => by
    rw [sameItems, found, sameItems_of_alike later, Option.any_some, same_of_alike here]
    rfl

end

theorem same_of_dumpsSorted {F : FloatText} {x y : Json} (proper_x : Proper x) (proper_y : Proper y)
    (texts : dumpsSorted F.text x = dumpsSorted F.text y) : same x y = true :=
  same_of_alike (alike_of_canonical proper_x proper_y (dumpsUnicode_injective texts))

end Taroai.Json
