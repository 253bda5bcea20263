import Mathlib
import Taroai.Connectors.DatabaseQuery
import Taroai.Connectors.SqlReading

/-! Which tables an accepted query can reach. The check sees a table whose plain name stands right
behind FROM or JOIN and white space. Every other table that the statement reads, further in a list
or behind a comment, with a third part or a name the pattern cuts short, it does not see, nor that
the statement creates a table. -/

namespace Taroai.Connectors

section Confined

variable (d : Dialect) (config : DatabaseConnectorConfig)

/-- The table is an allowed one, with an allowed schema where a schema is written. -/
def Allows (site : Site) : Prop :=
  (∃ table ∈ config.allowedTables, lower table.1 = site.table d) ∧
    ∀ schema ∈ site.schema d, ∃ item ∈ config.allowedSchemas, lower item.1 = schema

instance (site : Site) : Decidable (Allows d config site) :=
  inferInstanceAs (Decidable (_ ∧ _))

def Confined (statement : List Char) : Prop :=
  (∀ site ∈ reads d statement, Allows d config site) ∧ writes d statement = false

instance (statement : List Char) : Decidable (Confined d config statement) :=
  inferInstanceAs (Decidable (_ ∧ _))

end Confined

section Visible

variable (d : Dialect) (wordChar : Char → Bool)

/-- A name of ASCII letters, digits and underscores, bare or in quotes. In quotes it has no capital
letters where these count. -/
inductive Plain (x : Lexeme) : List Char → Prop
  | word (kind : x.kind = .word) (ascii : isIdentifier x.raw = true) : Plain x x.raw
  | quoted {name : List Char} (kind : x.kind = .quoted) (raw : x.raw = '"' :: (name ++ ['"']))
      (ascii : isIdentifier name = true) (exact : d.foldsQuoted = true ∨ lower name = name) :
      Plain x name

def Ends (rest : List Char) : Prop :=
  ∀ c ∈ rest.head?, isNamePart c = false ∧ c ≠ '"'

/-- The whole name is one plain part, or two with a dot and nothing else between them. -/
inductive SimplyNamed (site : Site) : Prop
  | table {name : List Char} (plain : Plain d site.first name) (parts : site.parts = [site.first])
      (ends : Ends (chars site.after)) (last : (chars site.after).head? ≠ some '.')
  | schemaTable {schema name : List Char} {dot second : Lexeme} {rest : List Lexeme}
      (plain : Plain d site.first schema) (plain' : Plain d second name)
      (after : site.after = dot :: second :: rest) (raw : dot.raw = ['.'])
      (parts : site.parts = [site.first, second]) (ends : Ends (chars rest))

/-- FROM or JOIN and white space stand right before the name. FROM or JOIN is not glued to a word,
and no earlier reference of the pattern runs over it. -/
structure Introduced (site : Site) (earlier : List Lexeme) (word gap : Lexeme) : Prop where
  before : site.before = gap :: word :: earlier
  keyword : lower word.raw = "from".toList ∨ lower word.raw = "join".toList
  nonempty : gap.raw ≠ []
  blank : ∀ c ∈ gap.raw, isSpace c = true
  boundary : (chars earlier.reverse).getLast?.any wordChar = false
  free : ¬Scan.Overrun (tablePattern wordChar) none (chars earlier.reverse)
    (chars (word :: gap :: site.first :: site.after))

def Visible (site : Site) : Prop :=
  SimplyNamed d site ∧ ∃ earlier word gap, Introduced wordChar site earlier word gap

end Visible

section Letters

variable {c : Char}

theorem isNamePart_of_ascii (ascii : isAsciiPart c = true) : isNamePart c = true := by
  simp only [isAsciiPart, Bool.or_eq_true] at ascii
  simp only [isNamePart, isNameStart, Bool.or_eq_true]
  tauto

theorem isNameStart_of_ascii (ascii : isAsciiStart c = true) : isNameStart c = true := by
  simp [isNameStart, ascii]

theorem isAsciiPart_of_start (ascii : isAsciiStart c = true) : isAsciiPart c = true := by
  simp [isAsciiPart, ascii]

theorem ne_quote_of_ascii (ascii : isAsciiPart c = true) : c ≠ '"' := by
  rintro rfl
  exact absurd ascii (by decide)

theorem range_of_ascii (ascii : isAsciiStart c = true) : 65 ≤ c.toNat ∧ c.toNat ≤ 122 := by
  simp only [isAsciiStart, Bool.or_eq_true, Char.isAlpha, Char.isUpper, Char.isLower,
    Bool.and_eq_true, decide_eq_true_eq, UInt32.le_iff_toNat_le, ge_iff_le] at ascii
  obtain (⟨low, high⟩ | ⟨low, high⟩) | rfl := ascii
  · exact ⟨low, le_trans high (by decide)⟩
  · exact ⟨le_trans (by decide) low, high⟩
  · decide

theorem isSpace_range (space : isSpace c = true) : c.toNat ≤ 32 ∨ 133 ≤ c.toNat := by
  simp only [isSpace, Bool.or_eq_true, Bool.and_eq_true, decide_eq_true_eq, beq_iff_eq] at space
  omega

theorem isSpace_of_ascii (ascii : isAsciiStart c = true) : isSpace c = false := by
  have := range_of_ascii ascii
  rw [← Bool.not_eq_true]
  intro space
  have := isSpace_range space
  omega

theorem lowered_of_ascii {name : List Char} (ascii : ∀ c ∈ name, isAsciiPart c = true) :
    lowered name = lower name := by
  induction name with
  | nil => rfl
  | cons c name ih =>
    have here := ascii c (List.mem_cons_self ..)
    have dotted : c ≠ 'İ' := by
      rintro rfl
      exact absurd here (by decide)
    have kelvin : c ≠ '\u212a' := by
      rintro rfl
      exact absurd here (by decide)
    have rest := ih fun c member => ascii c (List.mem_cons_of_mem _ member)
    simp only [lowered, List.flatMap_cons, dotted, kelvin, if_false] at rest ⊢
    rw [rest]
    rfl

theorem ascii_of_isIdentifier {name : List Char} (ascii : isIdentifier name = true) :
    ∀ c ∈ name, isAsciiPart c = true := by
  cases name with
  | nil => cases ascii
  | cons c rest =>
    simp only [isIdentifier, Bool.and_eq_true, List.all_eq_true] at ascii
    intro x member
    obtain rfl | member := List.mem_cons.mp member
    · exact isAsciiPart_of_start ascii.1
    · exact ascii.2 x member

end Letters

section Names

variable {d : Dialect} {x : Lexeme} {name rest : List Char}

theorem undoubled_of_ascii (ascii : ∀ c ∈ name, isAsciiPart c = true) : undoubled name = name := by
  induction name with
  | nil => rfl
  | cons c name ih =>
    have here := ne_quote_of_ascii (ascii c (List.mem_cons_self ..))
    have later := ih fun c member => ascii c (List.mem_cons_of_mem _ member)
    rw [undoubled, later]
    exact fun rest quote => absurd quote here

theorem Plain.isIdentifier (plain : Plain d x name) : isIdentifier name = true := by
  cases plain with
  | word kind ascii => exact ascii
  | quoted kind raw ascii exact' => exact ascii

theorem Plain.name_eq (plain : Plain d x name) : x.name d = lower name := by
  cases plain with
  | word kind ascii => simp [Lexeme.name, kind]
  | quoted kind raw ascii exact' =>
    have inner : undoubled ((x.raw.drop 1).dropLast) = name := by
      rw [raw]
      simpa using undoubled_of_ascii (ascii_of_isIdentifier ascii)
    simp only [Lexeme.name, kind, inner]
    split
    · rfl
    · next sharp => exact (exact'.resolve_left sharp).symm

theorem span_identifier (ascii : Taroai.Connectors.isIdentifier name = true) (ends : Ends rest) :
    (name ++ rest).takeWhile isNamePart = name ∧ (name ++ rest).dropWhile isNamePart = rest := by
  have each : ∀ c ∈ name, isNamePart c = true := fun c member =>
    isNamePart_of_ascii (ascii_of_isIdentifier ascii c member)
  have stop : rest.takeWhile isNamePart = [] ∧ rest.dropWhile isNamePart = rest := by
    cases rest with
    | nil => exact ⟨rfl, rfl⟩
    | cons c rest =>
      have := (ends c rfl).1
      simp [this]
  rw [List.takeWhile_append_of_pos each, List.dropWhile_append_of_pos each, stop.1, stop.2,
    List.append_nil]
  exact ⟨rfl, rfl⟩

theorem head_identifier (ascii : Taroai.Connectors.isIdentifier name = true) :
    ∃ c tail, name = c :: tail ∧ isAsciiStart c = true := by
  cases name with
  | nil => cases ascii
  | cons c tail =>
    simp only [Taroai.Connectors.isIdentifier, Bool.and_eq_true] at ascii
    exact ⟨c, tail, rfl, ascii.1⟩

theorem matchBareName_bare (opened : List Char) (ascii : Taroai.Connectors.isIdentifier name = true)
    (ends : Ends rest) : matchBareName opened (name ++ rest) = some (opened ++ name, rest) := by
  obtain ⟨taken, left⟩ := span_identifier ascii ends
  obtain ⟨c, tail, rfl, start⟩ := head_identifier ascii
  have first : ((c :: tail) ++ rest).head?.any isNameStart = true := by
    simpa using isNameStart_of_ascii start
  simp only [matchBareName, first, if_true, taken, left]
  split
  · next rest' => exact absurd rfl (ends '"' rfl).2
  · rfl

theorem matchBareName_quoted (opened rest : List Char)
    (ascii : Taroai.Connectors.isIdentifier name = true) :
    matchBareName opened (name ++ '"' :: rest) = some (opened ++ name ++ ['"'], rest) := by
  have each : ∀ c ∈ name, isNamePart c = true := fun c member =>
    isNamePart_of_ascii (ascii_of_isIdentifier ascii c member)
  have quote : isNamePart '"' = false := by decide
  obtain ⟨c, tail, rfl, start⟩ := head_identifier ascii
  have first : ((c :: tail) ++ '"' :: rest).head?.any isNameStart = true := by
    simpa using isNameStart_of_ascii start
  simp only [matchBareName, first, if_true, List.takeWhile_append_of_pos each,
    List.dropWhile_append_of_pos each, List.takeWhile_cons, List.dropWhile_cons, quote]
  simp

theorem Plain.matchName_eq (plain : Plain d x name) (ends : Ends rest) :
    matchName (x.raw ++ rest) = some (x.raw, rest) := by
  cases plain with
  | word kind ascii =>
    obtain ⟨c, tail, same, start⟩ := head_identifier ascii
    have other : c ≠ '"' := ne_quote_of_ascii (isAsciiPart_of_start start)
    have bare := matchBareName_bare [] ascii ends
    rw [same] at bare ⊢
    unfold matchName
    split
    · next shown =>
      cases shown
      exact absurd rfl other
    · exact bare
  | quoted kind raw ascii exact' =>
    have quoted := matchBareName_quoted ['"'] rest ascii
    rw [raw]
    simpa [matchName] using quoted

theorem Plain.normalized (plain : Plain d x name) : normalizeSqlName x.raw = name := by
  have outside (l : List Char) (ascii : ∀ c ∈ l, isAsciiPart c = true) :
      l.dropWhile (· = '"') = l := by
    cases l with
    | nil => rfl
    | cons c l => simp [ne_quote_of_ascii (ascii c (List.mem_cons_self ..))]
  have ascii := ascii_of_isIdentifier plain.isIdentifier
  have reversed : ∀ c ∈ name.reverse, isAsciiPart c = true := fun c member =>
    ascii c (List.mem_reverse.mp member)
  cases plain with
  | word kind ascii' =>
    simp only [normalizeSqlName, stripChars, outside _ ascii, outside _ reversed,
      List.reverse_reverse]
  | quoted kind raw ascii' exact' =>
    obtain ⟨c, tail, rfl, start⟩ := head_identifier ascii'
    have other := ne_quote_of_ascii (isAsciiPart_of_start start)
    have opened : (x.raw).dropWhile (· = '"') = (c :: tail) ++ ['"'] := by
      rw [raw]
      simp [other]
    simp only [normalizeSqlName, stripChars, opened, List.reverse_append, List.reverse_cons,
      List.reverse_nil, List.nil_append, List.singleton_append]
    rw [List.dropWhile_cons_of_pos (by simp), ← List.reverse_cons, outside _ reversed,
      List.reverse_reverse]

end Names

section Match

variable {d : Dialect} {wordChar : Char → Bool} {site : Site}

theorem SimplyNamed.matchNames_eq (named : SimplyNamed d site) :
    ∃ reference rest, matchNames (chars (site.first :: site.after)) = some (reference, rest) ∧
      reference.1.map lowered = site.schema d ∧ lowered reference.2 = site.table d := by
  cases named with
  | table plain parts ends last =>
    rename_i name
    refine ⟨(none, name), chars site.after, ?_, ?_, ?_⟩
    · rw [chars_cons, matchNames, plain.matchName_eq ends]
      simp only [plain.normalized]
      split
      · next further same =>
        rw [same] at last
        exact absurd rfl last
      · rfl
    · simp [Site.schema, parts]
    · rw [lowered_of_ascii (ascii_of_isIdentifier plain.isIdentifier)]
      simp [Site.table, parts, plain.name_eq]
  | schemaTable plain plain' after raw parts ends =>
    rename_i schema name dot second rest
    have dotEnds : Ends ('.' :: (second.raw ++ chars rest)) := by
      intro c dot
      obtain rfl : '.' = c := Option.some.inj dot
      decide
    refine ⟨(some schema, name), chars rest, ?_, ?_, ?_⟩
    · have first := plain.matchName_eq dotEnds
      have next := plain'.matchName_eq ends
      simp only [chars_cons, after, raw, List.singleton_append, matchNames, first, next,
        plain.normalized, plain'.normalized]
    · rw [Option.map_some, lowered_of_ascii (ascii_of_isIdentifier plain.isIdentifier)]
      simp [Site.schema, parts, plain.name_eq]
    · rw [lowered_of_ascii (ascii_of_isIdentifier plain'.isIdentifier)]
      simp [Site.table, parts, plain'.name_eq]

theorem matchWord_append {letters word rest : List Char} (same : lower word = letters) :
    matchWord letters (word ++ rest) = some rest := by
  induction word generalizing letters with
  | nil =>
    subst same
    rfl
  | cons c word ih =>
    subst same
    simp only [lower, List.map_cons, List.cons_append, matchWord, sameLetter, decide_true,
      Bool.true_or, if_true]
    exact ih rfl

theorem matchWord_from_join {word rest : List Char} (same : lower word = "join".toList) :
    matchWord "from".toList (word ++ rest) = none := by
  cases word with
  | nil => cases same
  | cons c word =>
    have other : c.toLower = 'j' := (List.cons.inj same).1
    change (if sameLetter 'f' c then _ else none) = none
    rw [if_neg (by simp [sameLetter, other])]

theorem keyword_matched {word rest : List Char}
    (keyword : lower word = "from".toList ∨ lower word = "join".toList) :
    (matchWord "from".toList (word ++ rest)).or (matchWord "join".toList (word ++ rest)) =
      some rest := by
  obtain same | same := keyword
  · rw [matchWord_append same, Option.some_or]
  · rw [matchWord_from_join same, matchWord_append same, Option.none_or]

theorem SimplyNamed.head (named : SimplyNamed d site) :
    ∃ c rest, chars (site.first :: site.after) = c :: rest ∧ isSpace c = false := by
  have first {name : List Char} (plain : Plain d site.first name) :
      ∃ c rest, chars (site.first :: site.after) = c :: rest ∧ isSpace c = false := by
    cases plain with
    | word kind ascii =>
      obtain ⟨c, tail, same, start⟩ := head_identifier ascii
      exact ⟨c, tail ++ chars site.after, by rw [chars_cons, same]; rfl, isSpace_of_ascii start⟩
    | quoted kind raw ascii exact' =>
      exact ⟨'"', _, by rw [chars_cons, raw]; rfl, by decide⟩
  cases named with
  | table plain parts ends last => exact first plain
  | schemaTable plain plain' after raw parts ends => exact first plain

theorem tablePattern_eq {prev : Option Char} {word gap behind rest : List Char} {c : Char}
    {reference : Reference} (boundary : prev.any wordChar = false)
    (keyword : lower word = "from".toList ∨ lower word = "join".toList) (nonempty : gap ≠ [])
    (blank : ∀ c ∈ gap, isSpace c = true) (sharp : isSpace c = false)
    (matched : matchNames (c :: behind) = some (reference, rest)) :
    tablePattern wordChar prev (word ++ (gap ++ c :: behind)) =
      some (reference, (word ++ (gap ++ c :: behind)).length - rest.length - 1) := by
  have spaced : (gap ++ c :: behind).head?.any isSpace = true := by
    cases gap with
    | nil => exact absurd rfl nonempty
    | cons b gap => simpa using blank b (List.mem_cons_self ..)
  have trimmed : (gap ++ c :: behind).dropWhile isSpace = c :: behind := by
    rw [List.dropWhile_append_of_pos blank]
    simp [sharp]
  simp only [tablePattern, boundary, Bool.false_eq_true, if_false, keyword_matched keyword, spaced,
    if_true, trimmed, matched, Option.map_some]

theorem Visible.mem_referencedTables {statement : List Char} (visible : Visible d wordChar site)
    (text : chars site.before.reverse ++ chars (site.first :: site.after) = statement) :
    ∃ reference ∈ referencedTables wordChar statement,
      reference.1.map lowered = site.schema d ∧ lowered reference.2 = site.table d := by
  obtain ⟨named, earlier, word, gap, introduced⟩ := visible
  obtain ⟨reference, rest, matched, schema, table⟩ := named.matchNames_eq
  obtain ⟨c, tail, head, sharp⟩ := named.head
  refine ⟨reference, ?_, schema, table⟩
  have whole : statement = chars earlier.reverse ++
      chars (word :: gap :: site.first :: site.after) := by
    rw [← text, introduced.before]
    simp
  have boundary : (Scan.lastAfter none (chars earlier.reverse)).any wordChar = false := by
    simpa [Scan.lastAfter] using introduced.boundary
  rw [head] at matched
  have found := tablePattern_eq boundary introduced.keyword introduced.nonempty introduced.blank
    sharp matched
  rw [← head, ← chars_cons, ← chars_cons] at found
  rw [whole]
  refine Scan.mem_occurrences found ?_ introduced.free (Nat.zero_le _)
  rw [chars_cons, chars_cons, head]
  simp

end Match

section Accepted

variable {d : Dialect} {wordChar : Char → Bool} {config : DatabaseConnectorConfig} {sql : String}
  {statement : List Char}

theorem allows_of_visible
    (accepted : validateDatabaseQuery wordChar config sql = .ok statement) {site : Site}
    (member : site ∈ reads d statement) (visible : Visible d wordChar site) :
    Allows d config site := by
  obtain ⟨reference, found, schema, table⟩ :=
    visible.mem_referencedTables (chars_of_mem_reads member)
  have item_eq (item : SqlIdentifier) : lowered item.1 = lower item.1 :=
    lowered_of_ascii (ascii_of_isIdentifier item.2)
  obtain ⟨tables, schemas⟩ :=
    of_checkReference ((of_validateDatabaseQuery wordChar accepted).2 reference found)
  constructor
  · obtain ⟨item, listed, same⟩ := tables
    exact ⟨item, listed, by rw [← item_eq, same, table]⟩
  · intro name written
    rw [← schema, Option.mem_def] at written
    obtain ⟨part, stated, rfl⟩ := Option.map_eq_some_iff.mp written
    obtain ⟨item, listed, same⟩ := schemas part stated
    exact ⟨item, listed, by rw [← item_eq, same]⟩

end Accepted

section Lists

def orders : DatabaseConnectorConfig where
  allowedTables := [⟨"orders".toList, by decide⟩]
  nonempty := List.cons_ne_nil _ _

def standard : Dialect where
  nestedComments := true
  foldsQuoted := false

def asciiWord (c : Char) : Bool := c.isAlphanum || c = '_'

theorem accepted_list :
    validateDatabaseQuery asciiWord orders "select * from orders, users" =
      .ok "select * from orders, users".toList := by
  decide +kernel

end Lists

end Taroai.Connectors
