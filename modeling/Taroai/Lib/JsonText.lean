import Taroai.Lib.Json

/-! `json.loads`. A numeral with a fraction or an exponent is what the parameter makes of it;
`NaN` and the infinities, and the lone surrogates that no text here holds, are refused. Each
step of the reader takes a character, so the length of the text is enough fuel. -/

namespace Taroai.Json

section Loads

def blank (c : Char) : Bool := c = ' ' || c = '\t' || c = '\n' || c = '\r'

def skipBlanks (chars : List Char) : List Char := chars.dropWhile blank

def hexValue? (c : Char) : Option Nat :=
  if 48 ≤ c.toNat ∧ c.toNat ≤ 57 then some (c.toNat - 48)
  else if 97 ≤ c.toNat ∧ c.toNat ≤ 102 then some (c.toNat - 87)
  else if 65 ≤ c.toNat ∧ c.toNat ≤ 70 then some (c.toNat - 55)
  else none

def readHex : List Char → Option (Nat × List Char)
  | a :: b :: c :: d :: rest => do
    let a ← hexValue? a
    let b ← hexValue? b
    let c ← hexValue? c
    let d ← hexValue? d
    return (a * 4096 + b * 256 + c * 16 + d, rest)
  | _ => none

def readLow (high : Nat) : List Char → Option (Char × List Char)
  | '\\' :: 'u' :: rest => do
    let (low, rest) ← readHex rest
    if 56320 ≤ low ∧ low ≤ 57343 then
      return (Char.ofNat (65536 + (high - 55296) * 1024 + (low - 56320)), rest)
    else none
  | _ => none

/-- After `\u`. -/
def readUnicode (chars : List Char) : Option (Char × List Char) := do
  let (n, rest) ← readHex chars
  if 55296 ≤ n ∧ n ≤ 56319 then readLow n rest
  else if 56320 ≤ n ∧ n ≤ 57343 then none
  else return (Char.ofNat n, rest)

def simpleEscape (c : Char) : Option Char :=
  if c = '"' ∨ c = '\\' ∨ c = '/' then some c
  else if c = 'n' then some '\n'
  else if c = 'r' then some '\r'
  else if c = 't' then some '\t'
  else if c = 'b' then some (Char.ofNat 8)
  else if c = 'f' then some (Char.ofNat 12)
  else none

def readChar : List Char → Option (Char × List Char)
  | [] => none
  | c :: rest =>
    if c = '\\' then
      match rest with
      | [] => none
      | d :: rest => if d = 'u' then readUnicode rest else (simpleEscape d).map fun e => (e, rest)
    else if c.toNat < 32 then none
    else some (c, rest)

def readQuoted : Nat → List Char → Option (List Char × List Char)
  | 0, _ => none
  | fuel + 1, chars =>
    if chars.head? = some '"' then some ([], chars.tail)
    else do
      let (c, rest) ← readChar chars
      let (others, rest) ← readQuoted fuel rest
      return (c :: others, rest)

def readText (chars : List Char) : Option (String × List Char) :=
  match chars with
  | '"' :: rest => (readQuoted chars.length rest).map fun (s, rest) => (String.ofList s, rest)
  | _ => none

def isDigit (c : Char) : Bool := 48 ≤ c.toNat && c.toNat ≤ 57

def natOfDigits (digits : List Char) : Nat :=
  digits.foldl (fun n c => 10 * n + (c.toNat - 48)) 0

/-- `\.[0-9]+` and `[eE][-+]?[0-9]+`, where they stand. -/
def readFraction : List Char → List Char × List Char
  | '.' :: rest =>
    if (rest.takeWhile isDigit).isEmpty then ([], '.' :: rest)
    else ('.' :: rest.takeWhile isDigit, rest.dropWhile isDigit)
  | chars => ([], chars)

def readExponent : List Char → List Char × List Char
  | e :: rest =>
    let sign := rest.takeWhile fun c => c = '+' || c = '-'
    let after := rest.drop sign.length
    if (e = 'e' || e = 'E') && sign.length ≤ 1 && !(after.takeWhile isDigit).isEmpty then
      (e :: (sign ++ after.takeWhile isDigit), after.dropWhile isDigit)
    else ([], e :: rest)
  | [] => ([], [])

variable (numeral : List Char → Json)

def readNumber (chars : List Char) : Option (Json × List Char) :=
  let negative : Bool := chars.head? = some '-'
  let unsigned := if negative then chars.tail else chars
  let digits := if unsigned.head? = some '0' then ['0'] else unsigned.takeWhile isDigit
  if digits.isEmpty then none
  else
    let (fraction, rest) := readFraction (unsigned.drop digits.length)
    let (exponent, rest) := readExponent rest
    let whole : Int := natOfDigits digits
    if fraction.isEmpty && exponent.isEmpty then
      some (.int (if negative then -whole else whole), rest)
    else
      some (numeral ((if negative then ['-'] else []) ++ digits ++ fraction ++ exponent), rest)

def readLiteral (chars : List Char) : Option (Json × List Char) :=
  if "null".toList.isPrefixOf chars then some (.null, chars.drop 4)
  else if "true".toList.isPrefixOf chars then some (.bool true, chars.drop 4)
  else if "false".toList.isPrefixOf chars then some (.bool false, chars.drop 5)
  else readNumber numeral chars

mutual

def readValue : Nat → List Char → Option (Json × List Char)
  | 0, _ => none
  | fuel + 1, chars =>
    match chars with
    | '"' :: _ => (readText chars).map fun (s, rest) => (.text s, rest)
    | '{' :: rest =>
      if (skipBlanks rest).head? = some '}' then some (.dict [], (skipBlanks rest).tail)
      else (readItems fuel [] (skipBlanks rest)).map fun (items, rest) => (.dict items, rest)
    | '[' :: rest =>
      if (skipBlanks rest).head? = some ']' then some (.list [], (skipBlanks rest).tail)
      else (readElements fuel (skipBlanks rest)).map fun (xs, rest) => (.list xs, rest)
    | _ => readLiteral numeral chars

def readItems : Nat → Items → List Char → Option (Items × List Char)
  | 0, _, _ => none
  | fuel + 1, items, chars => do
    let (key, rest) ← readText chars
    if (skipBlanks rest).head? = some ':' then
      let (value, rest) ← readValue fuel (skipBlanks (skipBlanks rest).tail)
      match skipBlanks rest with
      | ',' :: rest => readItems fuel (items.set key value) (skipBlanks rest)
      | '}' :: rest => some (items.set key value, rest)
      | _ => none
    else none

def readElements : Nat → List Char → Option (List Json × List Char)
  | 0, _ => none
  | fuel + 1, chars => do
    let (value, rest) ← readValue fuel chars
    match skipBlanks rest with
    | ',' :: rest => (readElements fuel (skipBlanks rest)).map fun (xs, rest) => (value :: xs, rest)
    | ']' :: rest => some ([value], rest)
    | _ => none

end

def loads (chars : List Char) : Option Json := do
  let (value, rest) ← readValue numeral (chars.length + 1) (skipBlanks chars)
  if (skipBlanks rest).isEmpty then some value else none

end Loads

section RoundTrip

theorem hexValue?_hexDigit (n : Nat) : hexValue? (hexDigit n) = some (n % 16) := by
  have table : ∀ k < 16, hexValue? (Nat.digitChar k) = some k := by decide
  exact table _ (Nat.mod_lt n (by decide))

theorem readHex_digits {n : Nat} (small : n < 65536) (rest : List Char) :
    readHex (hexDigit (n / 4096) :: hexDigit (n / 256) :: hexDigit (n / 16) :: hexDigit n :: rest) =
      some (n, rest) := by
  have digits : n / 4096 % 16 * 4096 + n / 256 % 16 * 256 + n / 16 % 16 * 16 + n % 16 = n := by
    omega
  simp only [readHex, hexValue?_hexDigit]
  change some (n / 4096 % 16 * 4096 + n / 256 % 16 * 256 + n / 16 % 16 * 16 + n % 16, rest) = _
  rw [digits]

theorem toNat_valid (c : Char) : c.toNat < 55296 ∨ 57343 < c.toNat ∧ c.toNat < 1114112 := c.valid

theorem readChar_unicode (rest : List Char) : readChar ('\\' :: 'u' :: rest) = readUnicode rest := rfl

theorem readChar_unicodeEscape {c : Char} (small : c.toNat < 65536) (rest : List Char) :
    readChar (unicodeEscape c.toNat ++ rest) = some (c, rest) := by
  have valid := toNat_valid c
  unfold unicodeEscape
  simp only [List.cons_append, List.nil_append]
  rw [readChar_unicode, readUnicode, readHex_digits small, Option.bind_eq_bind, Option.bind_some]
  dsimp only
  rw [if_neg (by omega), if_neg (by omega), Char.ofNat_toNat]
  rfl

theorem readChar_surrogates {c : Char} (large : 65536 ≤ c.toNat) (rest : List Char) :
    readChar (unicodeEscape (55296 + (c.toNat - 65536) / 1024) ++
      unicodeEscape (56320 + (c.toNat - 65536) % 1024) ++ rest) = some (c, rest) := by
  have valid := toNat_valid c
  generalize high : 55296 + (c.toNat - 65536) / 1024 = n
  generalize low : 56320 + (c.toNat - 65536) % 1024 = m
  have whole : 65536 + (n - 55296) * 1024 + (m - 56320) = c.toNat := by omega
  unfold unicodeEscape
  simp only [List.cons_append, List.nil_append]
  rw [readChar_unicode, readUnicode, readHex_digits (by omega), Option.bind_eq_bind,
    Option.bind_some]
  dsimp only
  rw [if_pos (by omega), readLow, readHex_digits (by omega), Option.bind_eq_bind, Option.bind_some]
  dsimp only
  rw [if_pos (by omega), whole, Char.ofNat_toNat]
  rfl

theorem eq_ofNat {c : Char} {n : Nat} (same : c.toNat = n) : c = Char.ofNat n := by
  rw [← same, Char.ofNat_toNat]

theorem readChar_escapeChar (c : Char) (rest : List Char) :
    readChar (escapeChar c ++ rest) = some (c, rest) := by
  unfold escapeChar
  split_ifs with quoted slash newline carriage tab backspace feed plain short
  · rw [quoted]; rfl
  · rw [slash]; rfl
  · rw [newline]; rfl
  · rw [carriage]; rfl
  · rw [tab]; rfl
  · rw [eq_ofNat backspace]; rfl
  · rw [eq_ofNat feed]; rfl
  · rw [List.singleton_append, readChar.eq_def]
    dsimp only
    rw [if_neg slash, if_neg (by omega)]
  · exact readChar_unicodeEscape short rest
  · exact readChar_surrogates (by omega) rest

theorem escapeChar_head (c : Char) (rest : List Char) :
    (escapeChar c ++ rest).head? ≠ some '"' := by
  unfold escapeChar
  split_ifs with quoted <;> simp [unicodeEscape, quoted]

theorem readQuoted_escaped (s rest : List Char) {fuel : Nat} (enough : s.length < fuel) :
    readQuoted fuel (s.flatMap escapeChar ++ '"' :: rest) = some (s, rest) := by
  induction s generalizing fuel with
  | nil =>
    obtain ⟨fuel, rfl⟩ := Nat.exists_eq_succ_of_ne_zero (Nat.ne_of_gt enough)
    rfl
  | cons c s ih =>
    obtain ⟨fuel, rfl⟩ := Nat.exists_eq_succ_of_ne_zero (Nat.ne_of_gt (Nat.zero_lt_of_lt enough))
    rw [List.length_cons] at enough
    rw [List.flatMap_cons, List.append_assoc, readQuoted, if_neg (escapeChar_head c _),
      readChar_escapeChar]
    change (readQuoted fuel (s.flatMap escapeChar ++ '"' :: rest) >>= _) = _
    rw [ih (by omega)]
    rfl

theorem escapeChar_length (c : Char) : 0 < (escapeChar c).length := by
  unfold escapeChar
  split_ifs <;> simp [unicodeEscape]

theorem length_le_escaped (s : List Char) : s.length ≤ (s.flatMap escapeChar).length := by
  induction s with
  | nil => exact le_rfl
  | cons c s ih =>
    have one := escapeChar_length c
    rw [List.flatMap_cons, List.length_append, List.length_cons]
    omega

theorem readText_quote (s : String) (rest : List Char) :
    readText (quote s ++ rest) = some (s, rest) := by
  have enough := length_le_escaped s.toList
  have shape : quote s ++ rest = '"' :: (s.toList.flatMap escapeChar ++ '"' :: rest) := by
    unfold quote
    rw [List.cons_append, List.append_assoc, List.singleton_append]
  have fuel : s.toList.length < ('"' :: (s.toList.flatMap escapeChar ++ '"' :: rest)).length := by
    rw [List.length_cons, List.length_append]
    omega
  rw [shape, readText, readQuoted_escaped _ _ fuel, Option.map_some]
  dsimp only
  rw [String.ofList_toList]

theorem readValue_quote (numeral : List Char → Json) (fuel : Nat) (s : String) (rest : List Char) :
    readValue numeral (fuel + 1) (quote s ++ rest) = some (.text s, rest) := by
  have shape : quote s ++ rest = '"' :: (s.toList.flatMap escapeChar ++ ['"'] ++ rest) := rfl
  rw [shape, readValue, ← shape, readText_quote, Option.map_some]

theorem Items.set_new {items : Items} {key : String} (value : Json)
    (fresh : key ∉ items.map Prod.fst) : items.set key value = items ++ [(key, value)] := by
  unfold Items.set
  rw [if_neg]
  simpa using fresh

def ofTexts (texts : List (String × String)) : Items :=
  texts.map fun item => (item.1, .text item.2)

/-- `separators=(",", ":")`. -/
def compact (float : Rat → String) : Style where
  comma := ","
  colon := ":"
  float := float

def dumpText (item : String × String) : List Char := quote item.1 ++ ':' :: quote item.2

theorem readItems_texts (numeral : List Char → Json) (item : String × String)
    (texts : List (String × String)) (items : Items) (rest : List Char) {fuel : Nat}
    (fresh : (items.map Prod.fst ++ (item :: texts).map Prod.fst).Nodup)
    (enough : texts.length + 1 < fuel) :
    readItems numeral fuel items
        (List.intercalate [','] ((item :: texts).map dumpText) ++ '}' :: rest) =
      some (items ++ ofTexts (item :: texts), rest) := by
  induction texts generalizing item items fuel with
  | nil =>
    obtain ⟨fuel, rfl⟩ := Nat.exists_eq_add_of_lt enough
    have new : item.1 ∉ items.map Prod.fst := by
      rw [List.nodup_append] at fresh
      exact fun member => fresh.2.2 _ member item.1 (by simp) rfl
    have shape : List.intercalate [','] ([item].map dumpText) ++ '}' :: rest =
        quote item.1 ++ ':' :: (quote item.2 ++ '}' :: rest) := by
      simp [List.intercalate, dumpText]
    rw [shape, readItems, readText_quote, Option.bind_eq_bind, Option.bind_some]
    change (readValue numeral _ (quote item.2 ++ '}' :: rest) >>= _) = _
    rw [List.length_nil, Nat.zero_add, Nat.add_comm 1, readValue_quote, Option.bind_eq_bind,
      Option.bind_some]
    change some (items.set item.1 (.text item.2), rest) = _
    rw [Items.set_new _ new]
    rfl
  | cons next texts ih =>
    rw [List.length_cons] at enough
    obtain ⟨fuel, rfl⟩ := Nat.exists_eq_succ_of_ne_zero (Nat.ne_of_gt (Nat.zero_lt_of_lt enough))
    obtain ⟨fuel, rfl⟩ := Nat.exists_eq_succ_of_ne_zero (n := fuel) (by omega)
    have new : item.1 ∉ items.map Prod.fst := by
      rw [List.nodup_append] at fresh
      exact fun member => fresh.2.2 _ member item.1 (by simp) rfl
    have shape : List.intercalate [','] ((item :: next :: texts).map dumpText) ++ '}' :: rest =
        quote item.1 ++ ':' :: (quote item.2 ++
          ',' :: (List.intercalate [','] ((next :: texts).map dumpText) ++ '}' :: rest)) := by
      simp [List.intercalate, dumpText]
    have start : skipBlanks (List.intercalate [','] ((next :: texts).map dumpText) ++ '}' :: rest) =
        List.intercalate [','] ((next :: texts).map dumpText) ++ '}' :: rest := by
      cases texts <;> rfl
    rw [shape, readItems, readText_quote, Option.bind_eq_bind, Option.bind_some]
    change (readValue numeral _ (quote item.2 ++ ',' :: _) >>= _) = _
    rw [readValue_quote, Option.bind_eq_bind, Option.bind_some]
    change readItems numeral _ (items.set item.1 (.text item.2)) (skipBlanks _) = _
    rw [start, Items.set_new _ new, @ih next (items ++ [(item.1, Json.text item.2)]) (fuel + 1) ?_ (by omega)]
    · simp [ofTexts]
    · simpa using fresh

theorem dumps_ofTexts (float : Rat → String) (texts : List (String × String)) :
    dumps (compact float) (.dict (ofTexts texts)) =
      '{' :: (List.intercalate [','] (texts.map dumpText) ++ ['}']) := by
  have items : ∀ texts, dumpItems (compact float) (ofTexts texts) =
      texts.map fun item => (item.1, quote item.2) := by
    intro texts
    induction texts with
    | nil => rfl
    | cons item texts ih =>
      change (item.1, quote item.2) :: dumpItems (compact float) (ofTexts texts) = _
      rw [ih]
      rfl
  have comma : (compact float).comma.toList = [','] := by simp [compact]
  have colon : (compact float).colon.toList = [':'] := by simp [compact]
  have unsorted : ∀ items, (compact float).arrange items = items := fun _ => rfl
  rw [dumps, items, comma, colon, unsorted, List.map_map]
  congr 4
  funext item
  exact List.append_assoc _ [':'] _

theorem loads_dumps (numeral : List Char → Json) (float : Rat → String)
    (texts : List (String × String)) (distinct : (texts.map Prod.fst).Nodup) :
    loads numeral (dumps (compact float) (.dict (ofTexts texts))) = some (.dict (ofTexts texts)) := by
  rw [dumps_ofTexts]
  cases texts with
  | nil => rfl
  | cons item texts =>
    have start : skipBlanks (List.intercalate [','] ((item :: texts).map dumpText) ++ ['}']) =
        List.intercalate [','] ((item :: texts).map dumpText) ++ ['}'] := by
      cases texts <;> rfl
    have opened : (List.intercalate [','] ((item :: texts).map dumpText) ++ ['}']).head? ≠
        some '}' := by
      cases texts <;> simp [List.intercalate, dumpText, quote]
    have enough : ∀ texts : List (String × String), ∀ item, texts.length + 1 <
        (List.intercalate [','] ((item :: texts).map dumpText) ++ ['}']).length + 1 := by
      intro texts
      induction texts with
      | nil =>
        intro item
        simp [List.intercalate, dumpText, quote]
      | cons next texts ih =>
        intro item
        have more := ih next
        simp only [List.intercalate, List.map_cons, List.intersperse_cons_cons, List.flatten_cons,
          List.length_append, List.length_cons, List.length_nil] at more ⊢
        omega
    unfold loads
    change (readValue numeral _ ('{' :: _) >>= _) = _
    rw [readValue]
    dsimp only
    rw [start, if_neg opened, readItems_texts numeral item texts [] [] (by simpa using distinct)
      (by simpa using enough texts item)]
    rfl

end RoundTrip

end Taroai.Json
