import Mathlib.Data.List.TakeWhile
import Taroai.Lib.Scan
import Taroai.Lib.Whitespace

/-! The check of a database connector's query in `connectors/dispatch.py`. Its pattern for table
references is matched from left to right without overlaps; none of its repetitions has to give
back a character, so a match is read off in one go. Which characters count as parts of a word for
the boundary before FROM or JOIN is a parameter. -/

namespace Taroai.Connectors

section Identifiers

def isAsciiStart (c : Char) : Bool := c.isAlpha || c = '_'

def isAsciiPart (c : Char) : Bool := isAsciiStart c || c.isDigit

/-- `^[A-Za-z_][A-Za-z0-9_]*$` -/
def isIdentifier : List Char → Bool
  | [] => false
  | c :: rest => isAsciiStart c && rest.all isAsciiPart

/-- The entries that `_validate_sql_identifier` returns. -/
abbrev SqlIdentifier := { name : List Char // isIdentifier name = true }

/-- `_validate_sql_identifier` -/
def validateSqlIdentifier (value : String) : Option SqlIdentifier :=
  if h : isIdentifier (strippedChars value) = true then some ⟨strippedChars value, h⟩ else none

end Identifiers

structure DatabaseConnectorConfig where
  allowedTables : List SqlIdentifier
  allowedSchemas : List SqlIdentifier := []
  nonempty : allowedTables ≠ []

section Pattern

def sameLetter (letter c : Char) : Bool :=
  c.toLower = letter || (letter = 'i' && (c = 'İ' || c = 'ı')) || (letter = 's' && c = 'ſ')

/-- `[A-Za-z_]` where case is ignored. -/
def isNameStart (c : Char) : Bool :=
  isAsciiStart c || c = 'İ' || c = 'ı' || c = 'ſ' || c = '\u212a'

def isNamePart (c : Char) : Bool := isNameStart c || c.isDigit

def matchWord : List Char → List Char → Option (List Char)
  | [], chars => some chars
  | letter :: letters, c :: rest => if sameLetter letter c then matchWord letters rest else none
  | _ :: _, [] => none

/-- `[A-Za-z_][A-Za-z0-9_]*"?` behind what is opened. -/
def matchBareName (opened chars : List Char) : Option (List Char × List Char) :=
  if chars.head?.any isNameStart then
    let name := opened ++ chars.takeWhile isNamePart
    match chars.dropWhile isNamePart with
    | '"' :: rest => some (name ++ ['"'], rest)
    | rest => some (name, rest)
  else none

/-- `"?[A-Za-z_][A-Za-z0-9_]*"?` -/
def matchName : List Char → Option (List Char × List Char)
  | '"' :: rest => matchBareName ['"'] rest
  | chars => matchBareName [] chars

/-- `_normalize_sql_name` -/
def normalizeSqlName (value : List Char) : List Char := stripChars (· = '"') value

abbrev Reference := Option (List Char) × List Char

def matchNames (chars : List Char) : Option (Reference × List Char) :=
  match matchName chars with
  | none => none
  | some (first, rest) =>
    match rest with
    | '.' :: further =>
      match matchName further with
      | some (second, rest) => some ((some (normalizeSqlName first), normalizeSqlName second), rest)
      | none => some ((none, normalizeSqlName first), rest)
    | rest => some ((none, normalizeSqlName first), rest)

/-- The pattern of `_referenced_tables`. -/
def tablePattern (wordChar : Char → Bool) : Scan.Pattern Char Reference := fun prev chars =>
  if prev.any wordChar then none
  else
    match (matchWord "from".toList chars).or (matchWord "join".toList chars) with
    | none => none
    | some behind =>
      if behind.head?.any isSpace then
        (matchNames (behind.dropWhile isSpace)).map fun (reference, rest) =>
          (reference, chars.length - rest.length - 1)
      else none

end Pattern

section Check

variable (wordChar : Char → Bool)

def referencedTables (statement : List Char) : List Reference :=
  Scan.occurrences (tablePattern wordChar) none 0 statement

/-- `str.lower` on a name of the pattern. -/
def lowered (name : List Char) : List Char :=
  name.flatMap fun c =>
    if c = 'İ' then ['i', '\u0307'] else if c = '\u212a' then ['k'] else [c.toLower]

def checkReference (config : DatabaseConnectorConfig) (reference : Reference) :
    Except String Unit :=
  let allowedTables := config.allowedTables.map fun item => lowered item.1
  let allowedSchemas := config.allowedSchemas.map fun item => lowered item.1
  if lowered reference.2 ∉ allowedTables then .error "table is not allowed"
  else
    match reference.1 with
    | none => .ok ()
    | some schema =>
      if allowedSchemas ≠ [] ∧ lowered schema ∉ allowedSchemas then .error "schema is not allowed"
      else if allowedSchemas = [] then .error "schema is not allowed"
      else .ok ()

/-- `_validate_database_query` -/
def validateDatabaseQuery (config : DatabaseConnectorConfig) (sql : String) :
    Except String (List Char) :=
  let statement := strippedChars sql
  let references := referencedTables wordChar statement
  if statement = [] then .error "sql is required"
  else if ';' ∈ statement then .error "only a single SELECT query is allowed"
  else if !(matchWord "select".toList statement).any (fun rest => rest.head?.any isSpace) then
    .error "only SELECT queries are allowed"
  else if references = [] then .error "query must reference at least one table"
  else
    match references.forM (checkReference config) with
    | .error message => .error message
    | .ok () => .ok statement

theorem forM_ok {α : Type} {f : α → Except String Unit} {l : List α} (passed : l.forM f = .ok ()) :
    ∀ a ∈ l, f a = .ok () := by
  induction l with
  | nil => simp
  | cons a l ih =>
    change (f a >>= fun _ => l.forM f) = .ok () at passed
    intro b member
    cases first : f a with
    | error message =>
      rw [first] at passed
      cases passed
    | ok done =>
      rw [first] at passed
      obtain rfl | member := List.mem_cons.mp member
      · exact first
      · exact ih passed b member

theorem of_checkReference {config : DatabaseConnectorConfig} {reference : Reference}
    (passed : checkReference config reference = .ok ()) :
    (∃ item ∈ config.allowedTables, lowered item.1 = lowered reference.2) ∧
      ∀ schema ∈ reference.1, ∃ item ∈ config.allowedSchemas, lowered item.1 = lowered schema := by
  simp only [checkReference, List.mem_map, Subtype.exists] at passed
  split at passed
  · cases passed
  · next table =>
    refine ⟨by simpa using table, ?_⟩
    intro schema written
    rw [Option.mem_def.mp written] at passed
    dsimp only at passed
    split at passed
    · cases passed
    · next allowed =>
      split at passed
      · cases passed
      · next nonempty =>
        by_contra missing
        exact allowed ⟨nonempty, by simpa using missing⟩

theorem of_validateDatabaseQuery {config : DatabaseConnectorConfig} {sql : String}
    {statement : List Char}
    (accepted : validateDatabaseQuery wordChar config sql = .ok statement) :
    statement = strippedChars sql ∧
      ∀ reference ∈ referencedTables wordChar statement, checkReference config reference = .ok () := by
  simp only [validateDatabaseQuery] at accepted
  split at accepted
  · cases accepted
  split at accepted
  · cases accepted
  split at accepted
  · cases accepted
  split at accepted
  · cases accepted
  split at accepted
  · cases accepted
  · next passed =>
    obtain rfl := Except.ok.inj accepted
    exact ⟨rfl, forM_ok passed⟩

end Check

end Taroai.Connectors
