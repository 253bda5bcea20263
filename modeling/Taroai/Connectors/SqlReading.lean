import Taroai.Lib.Scan

/-! What a SELECT statement reads and writes, in the usual reading of SQL. A text is cut into
lexemes; of the lexemes a reader keeps, for every open parenthesis, in which clause it stands. A
table is named where the reader stands in a FROM clause behind FROM, JOIN or a comma, also within
parentheses; a name may have several parts with dots; a SELECT with INTO creates a table. Two
things differ between databases: whether block comments nest, and whether a quoted name keeps its
case. Lists of table functions and of rows are read over, common table expressions are not known. -/

namespace Taroai.Connectors

structure Dialect where
  nestedComments : Bool
  foldsQuoted : Bool
deriving DecidableEq, Repr

inductive LexemeKind where
  | space
  | comment
  | word
  | quoted
  | string
  | number
  | symbol
deriving DecidableEq, Repr

structure Lexeme where
  kind : LexemeKind
  raw : List Char
deriving DecidableEq, Repr

section Lexer

def isBlank (c : Char) : Bool := c = ' ' || (9 ≤ c.toNat && c.toNat ≤ 13)

def isWordStart (c : Char) : Bool := c.isAlpha || c = '_' || 128 ≤ c.toNat

def isWordPart (c : Char) : Bool := isWordStart c || c.isDigit || c = '$'

def quotedLength (quote : Char) : List Char → Nat
  | [] => 0
  | c :: rest =>
    if c = quote then
      match rest with
      | [] => 1
      | c' :: rest' => if c' = quote then 2 + quotedLength quote rest' else 1
    else 1 + quotedLength quote rest

/-- How much of a text belongs to the block comment, behind so many openings. -/
def commentLength (nested : Bool) : Nat → List Char → Nat
  | _, [] => 0
  | 0, _ => 0
  | depth + 1, '*' :: '/' :: rest => 2 + commentLength nested depth rest
  | depth + 1, '/' :: '*' :: rest =>
    2 + commentLength nested (if nested then depth + 2 else depth + 1) rest
  | depth + 1, _ :: rest => 1 + commentLength nested (depth + 1) rest

/-- The kind of the lexeme ahead, and how many characters it has after its first. -/
def lexemeAhead (d : Dialect) : List Char → LexemeKind × Nat
  | [] => (.symbol, 0)
  | '-' :: '-' :: rest => (.comment, 1 + (rest.takeWhile (· ≠ '\n')).length)
  | '/' :: '*' :: rest => (.comment, 1 + commentLength d.nestedComments 1 rest)
  | c :: rest =>
    if isBlank c then (.space, (rest.takeWhile isBlank).length)
    else if c = '"' then (.quoted, quotedLength '"' rest)
    else if c = '\'' then (.string, quotedLength '\'' rest)
    else if isWordStart c then (.word, (rest.takeWhile isWordPart).length)
    else if c.isDigit then
      (.number, (rest.takeWhile fun c => isWordPart c || c = '.').length)
    else (.symbol, 0)

def lexemes (d : Dialect) (text : List Char) : List Lexeme :=
  (Scan.pieces (lexemeAhead d) 0 text).map fun piece => ⟨piece.1, piece.2⟩

def chars (xs : List Lexeme) : List Char := xs.flatMap Lexeme.raw

@[simp] theorem chars_nil : chars [] = [] := rfl

@[simp] theorem chars_cons (x : Lexeme) (xs : List Lexeme) : chars (x :: xs) = x.raw ++ chars xs :=
  List.flatMap_cons

@[simp] theorem chars_append (xs ys : List Lexeme) : chars (xs ++ ys) = chars xs ++ chars ys :=
  List.flatMap_append

theorem chars_lexemes (d : Dialect) (text : List Char) : chars (lexemes d text) = text := by
  have whole := Scan.flatMap_pieces (lexemeAhead d) 0 text
  rw [List.drop_zero] at whole
  simpa [chars, lexemes, List.flatMap_map] using whole

end Lexer

section Names

def lower (chars : List Char) : List Char := chars.map Char.toLower

def undoubled : List Char → List Char
  | '"' :: '"' :: rest => '"' :: undoubled rest
  | c :: rest => c :: undoubled rest
  | [] => []

def Lexeme.name (d : Dialect) (x : Lexeme) : List Char :=
  match x.kind with
  | .quoted =>
    let inner := undoubled (x.raw.drop 1).dropLast
    if d.foldsQuoted then lower inner else inner
  | .space | .comment | .word | .string | .number | .symbol => lower x.raw

def Lexeme.significant (x : Lexeme) : Bool := x.kind ≠ .space && x.kind ≠ .comment

def Lexeme.isName (x : Lexeme) : Bool := x.kind = .word || x.kind = .quoted

def Lexeme.isSymbol (x : Lexeme) (c : Char) : Bool := x.kind = .symbol && x.raw = [c]

/-- The further parts of a name, and what comes behind it, between lexemes that count. -/
def dotted : List Lexeme → List Lexeme × List Lexeme
  | dot :: part :: rest =>
    if dot.isSymbol '.' && part.isName then
      let (parts, behind) := dotted rest
      (part :: parts, behind)
    else ([], dot :: part :: rest)
  | [x] => ([], [x])
  | [] => ([], [])

end Names

section Reader

inductive Clause where
  | elsewhere
  | selectList
  /-- Behind FROM, JOIN or a comma of the FROM clause. -/
  | tableDue
  | fromClause
deriving DecidableEq, Repr

inductive Last where
  | dot
  | asWord
  | distinct
  | other
deriving DecidableEq, Repr

structure Reader where
  clause : Clause := .elsewhere
  /-- Of the parentheses around, the innermost first. -/
  outer : List Clause := []
  last : Last := .other
deriving DecidableEq, Repr

namespace Reader

variable (r : Reader) (x : Lexeme)

def keyword : Option (List Char) :=
  if x.kind = .word && r.last ≠ .dot && r.last ≠ .asWord then some (lower x.raw) else none

def isKeyword (word : String) : Bool := r.keyword x = some word.toList

def isTableWord : Bool := r.isKeyword x "lateral" || r.isKeyword x "only"

def endsFromClause : Bool :=
  ["where", "group", "having", "order", "limit", "offset", "fetch", "for", "window", "union",
    "intersect", "except", "values"].any fun word => r.isKeyword x word

def startsTable : Bool :=
  r.clause = .tableDue && x.isName &&
    !(r.isKeyword x "select" || r.isTableWord x || r.endsFromClause x)

def clauseAfter : Clause :=
  if r.startsTable x then .fromClause
  else if r.isKeyword x "select" then .selectList
  else if r.isKeyword x "from" && r.clause = .selectList && r.last ≠ .distinct then .tableDue
  else if (r.isKeyword x "join" || x.isSymbol ',') && r.clause = .fromClause then .tableDue
  else if r.endsFromClause x then .elsewhere
  else r.clause

def lastAfter : Last :=
  if x.isSymbol '.' then .dot
  else if r.isKeyword x "as" then .asWord
  else if r.isKeyword x "distinct" then .distinct
  else .other

def step : Reader :=
  if !x.significant then r
  else if x.isSymbol '(' then
    if r.clause = .tableDue then ⟨.tableDue, .fromClause :: r.outer, .other⟩
    else ⟨.elsewhere, r.clause :: r.outer, .other⟩
  else if x.isSymbol ')' then
    match r.outer with
    | [] => { r with last := .other }
    | clause :: outer => ⟨clause, outer, .other⟩
  else ⟨r.clauseAfter x, r.outer, r.lastAfter x⟩

end Reader

/-- A place where a table is named: what stands before, the last lexeme first, the first part of
the name and what stands behind. -/
structure Site where
  before : List Lexeme
  first : Lexeme
  after : List Lexeme
deriving DecidableEq, Repr

namespace Site

variable (d : Dialect) (site : Site)

def parts : List Lexeme := site.first :: (dotted (site.after.filter Lexeme.significant)).1

def isCall : Bool :=
  (dotted (site.after.filter Lexeme.significant)).2.head?.any fun x => x.isSymbol '('

def table : List Char := (site.parts.getLastD site.first).name d

def schema : Option (List Char) := (site.parts.dropLast.getLast?).map fun x => x.name d

end Site

def sitesFrom (r : Reader) (before : List Lexeme) : List Lexeme → List Site
  | [] => []
  | x :: after =>
    let site : Site := ⟨before, x, after⟩
    let later := sitesFrom (r.step x) (x :: before) after
    if r.startsTable x && !site.isCall then site :: later else later

def writesFrom (r : Reader) : List Lexeme → Bool
  | [] => false
  | x :: after => r.clause = .selectList && r.isKeyword x "into" || writesFrom (r.step x) after

def reads (d : Dialect) (statement : List Char) : List Site := sitesFrom {} [] (lexemes d statement)

def writes (d : Dialect) (statement : List Char) : Bool := writesFrom {} (lexemes d statement)

theorem split_of_mem_sitesFrom {r : Reader} {before xs : List Lexeme} {site : Site}
    (member : site ∈ sitesFrom r before xs) :
    site.before.reverse ++ site.first :: site.after = before.reverse ++ xs := by
  induction xs generalizing r before with
  | nil => cases member
  | cons x after ih =>
    have later (member : site ∈ sitesFrom (r.step x) (x :: before) after) :
        site.before.reverse ++ site.first :: site.after = before.reverse ++ x :: after := by
      rw [ih member, List.reverse_cons, List.append_assoc, List.singleton_append]
    simp only [sitesFrom] at member
    split at member
    · obtain rfl | member := List.mem_cons.mp member
      · rfl
      · exact later member
    · exact later member

theorem chars_of_mem_reads {d : Dialect} {statement : List Char} {site : Site}
    (member : site ∈ reads d statement) :
    chars site.before.reverse ++ chars (site.first :: site.after) = statement := by
  rw [← chars_append, split_of_mem_sitesFrom member]
  exact chars_lexemes d statement

end Reader

end Taroai.Connectors
