import Mathlib
import Taroai.Lib.JsonReading
import Taroai.Lib.Patterns

/-! Redaction of a text entry of a support bundle (`support/redaction.py`): first each line that is
a JSON document of its own, then the text patterns, then the assignments of sensitive fields.
`str.lower`, the word characters of `re`, which letters are one to it without regard to case and
the text of a float are parameters. -/

namespace Taroai.Support

open Json Pattern

inductive RedactionCategory where
  | apiKey
  | bearerToken
  | credentialedUrl
  | signedUrl
  | connectionString
  | sensitiveField
deriving DecidableEq, Repr

def RedactionCategory.value : RedactionCategory → String
  | .apiKey => "api_key"
  | .bearerToken => "bearer_token"
  | .credentialedUrl => "credentialed_url"
  | .signedUrl => "signed_url"
  | .connectionString => "connection_string"
  | .sensitiveField => "sensitive_field"

structure SupportBundleRedactionFinding where
  entry : String
  category : RedactionCategory
  count : Nat
deriving DecidableEq, Repr

structure TextTables where
  lower : String → String
  word : Char → Bool
  alike : Char → Char → Bool
  numeral : List Char → Json
  float : Rat → String

def sensitiveFieldNames : List String :=
  ["access_token", "api_key", "authorization", "connection_string", "connector_payload", "cookie",
    "database_url", "model_prompt", "password", "prompt", "raw_connector_payload", "refresh_token",
    "secret", "set_cookie", "signed_url", "token", "x_api_key"]

def sensitiveFieldSuffixes : List String :=
  ["_api_key", "_connection_string", "_password", "_secret", "_signed_url", "_token"]

def redactionMarker (category : RedactionCategory) : String := "[REDACTED:" ++ category.value ++ "]"

def isSensitiveFieldKey (key : String) : Bool :=
  key ∈ sensitiveFieldNames ||
    sensitiveFieldSuffixes.any fun suffix => suffix.toList.isSuffixOf key.toList

variable (tables : TextTables)

def normalizedKey (value : String) : String :=
  tables.lower (String.ofList (value.toList.map fun c => if c = '-' then '_' else c))

def sensitive (key : String) : Bool := isSensitiveFieldKey (normalizedKey tables key)

section Documents

mutual

def redactJsonValue : Json → Json × Nat
  | .dict items => (.dict (redactItems items).1, (redactItems items).2)
  | .list xs => (.list (redactEach xs).1, (redactEach xs).2)
  | .null => (.null, 0)
  | .bool b => (.bool b, 0)
  | .int n => (.int n, 0)
  | .float q => (.float q, 0)
  | .text s => (.text s, 0)

def redactEach : List Json → List Json × Nat
  | [] => ([], 0)
  | x :: xs => ((redactJsonValue x).1 :: (redactEach xs).1, (redactJsonValue x).2 + (redactEach xs).2)

def redactItems : List (String × Json) → List (String × Json) × Nat
  | [] => ([], 0)
  | (key, value) :: rest =>
    if sensitive tables key then
      ((key, .text (redactionMarker .sensitiveField)) :: (redactItems rest).1, 1 + (redactItems rest).2)
    else
      ((key, (redactJsonValue value).1) :: (redactItems rest).1,
        (redactJsonValue value).2 + (redactItems rest).2)

end

/-- The characters at which `str.splitlines` breaks. -/
def lineBreak (c : Char) : Bool :=
  let n := c.toNat
  (10 ≤ n && n ≤ 13) || (28 ≤ n && n ≤ 30) || n == 0x85 || n == 0x2028 || n == 0x2029

/-- The lines from within one on, of which the characters so far are given, the last first. -/
def linesFrom : List Char → List Char → List (List Char)
  | [], [] => []
  | line, [] => [line.reverse]
  | line, '\r' :: '\n' :: rest => (line.reverse ++ ['\r', '\n']) :: linesFrom [] rest
  | line, c :: rest =>
    if lineBreak c then (line.reverse ++ [c]) :: linesFrom [] rest else linesFrom (c :: line) rest

/-- `splitlines(keepends=True)` -/
def splitLines (text : List Char) : List (List Char) := linesFrom [] text

def lineEnd (c : Char) : Bool := c = '\r' || c = '\n'

def redactJsonLine (line : List Char) : List Char × Nat :=
  let body := line.rdropWhile lineEnd
  let opening := (body.dropWhile isSpace).head?
  if opening = some '{' ∨ opening = some '[' then
    match loads tables.numeral body with
    | none => (line, 0)
    | some parsed =>
      let (redacted, count) := redactJsonValue tables parsed
      if count = 0 then (line, 0)
      else (dumpsSorted tables.float redacted ++ line.rtakeWhile lineEnd, count)
  else (line, 0)

def redactJsonLines (text : List Char) : List Char × Nat :=
  let lines := (splitLines text).map (redactJsonLine tables)
  if lines.any fun line => 0 < line.2 then
    (lines.flatMap Prod.fst, (lines.map Prod.snd).sum)
  else (text, 0)

end Documents

section Patterns

def asciiLetter (c : Char) : Bool := c.isUpper || c.isLower

def letter (c : Char) : Bool := "abcdefghijklmnopqrstuvwxyz".toList.any (tables.alike c)

def ignoringCase (text : String) : Pattern Unit := literal tables.alike text.toList

def among (chars : String) (c : Char) : Bool := chars.toList.contains c

/-- `[^\s"'<>]` -/
def urlChar (c : Char) : Bool := !isSpace c && !among "\"'<>" c

def apiKeyPattern : Pattern Unit := do
  literal (fun a b => a = b) "sk-".toList
  atLeast 16 fun c => asciiLetter c || c.isDigit || among "_-" c

def bearerPattern : Pattern Unit := do
  boundary tables.word
  ignoringCase tables "Bearer"
  atLeast 1 isSpace
  atLeast 12 fun c => letter tables c || c.isDigit || among "._~+/=-" c

/-- `https?://` -/
def httpScheme : Pattern Unit := do
  ignoringCase tables "http"
  optional (ignoringCase tables "s")
  ignoringCase tables "://"

def userinfoPattern : Pattern Unit := do
  httpScheme tables
  atLeast 1 fun c => urlChar c && !among "/@" c
  ignoringCase tables ":"
  atLeast 1 fun c => urlChar c && !among "/@" c
  ignoringCase tables "@"
  atLeast 1 urlChar

def queryCredentialPattern : Pattern Unit := do
  httpScheme tables
  atLeast 0 urlChar
  one (among "?&")
  either (["access_token", "refresh_token", "id_token", "api_key", "x-api-key", "token", "signature",
    "sig", "client_secret", "password"].map (ignoringCase tables))
  ignoringCase tables "="
  atLeast 0 urlChar

def signedUrlPattern : Pattern Unit := do
  httpScheme tables
  atLeast 0 urlChar
  either (["X-Amz-Signature", "X-Amz-Credential", "Signature="].map (ignoringCase tables))
  atLeast 0 urlChar

def connectionStringPattern : Pattern Unit := do
  boundary tables.word
  either [ignoringCase tables "postgresql", ignoringCase tables "postgres",
    ignoringCase tables "mysql", ignoringCase tables "redis",
    do
      ignoringCase tables "mongodb"
      optional (ignoringCase tables "+srv"),
    ignoringCase tables "amqp", ignoringCase tables "s3"]
  ignoringCase tables "://"
  atLeast 1 urlChar

def textPatterns : List (RedactionCategory × Pattern Unit) :=
  [(.apiKey, apiKeyPattern), (.bearerToken, bearerPattern tables),
    (.credentialedUrl, userinfoPattern tables), (.credentialedUrl, queryCredentialPattern tables),
    (.signedUrl, signedUrlPattern tables), (.connectionString, connectionStringPattern tables)]

structure Assignment where
  leading : List Char
  key : List Char
  value : List Char
  whole : List Char

def keyPattern : Pattern (List Char) := group do
  one fun c => letter tables c || c = '_'
  atLeast 0 fun c => letter tables c || c.isDigit || among "_-" c

/-- `prefix`, with the key in it. -/
def leadingPattern : Pattern (List Char) := do
  boundary tables.word
  let key ← keyPattern tables
  boundary tables.word
  atLeast 0 isSpace
  one (among "=:")
  atLeast 0 isSpace
  return key

def valuePattern : Pattern (List Char) := fun spot =>
  let closed (quote : Pattern Unit) : Pattern (List Char) := do
    let value ← group (lazily fun c => !lineEnd c)
    quote
    ahead (either [atEnd, do
      optional (one fun c => c = '\r')
      one fun c => c = '\n'])
    return value
  let quoted (c : Char) : Pattern (List Char) := do
    one fun d => d = c
    closed (optional (one fun d => d = c))
  either [quoted '"', quoted '\'', closed (pure ())] spot

def sensitiveFieldAssignmentPattern : Pattern Assignment := fun spot =>
  (leadingPattern tables spot).flatMap fun (key, middle) =>
    (valuePattern middle).map fun (value, last) =>
      let since (next : Spot) :=
        (next.before.take (next.before.length - spot.before.length)).reverse
      (⟨since middle, key, value, since last⟩, last)

/-- `replace` -/
def replaceAssignment (found : Assignment) : List Char × Nat :=
  let marker := (redactionMarker .sensitiveField).toList
  if !sensitive tables (String.ofList found.key) then (found.whole, 0)
  else if found.value = marker then (found.whole, 0)
  else if "[REDACTED:".toList.isPrefixOf (stripChars isSpace found.value) then (found.whole, 0)
  else if (stripChars isSpace found.value).isEmpty then (found.whole, 0)
  else (found.leading ++ marker, 1)

def redactTextSensitiveAssignments (text : List Char) : List Char × Nat :=
  sub (sensitiveFieldAssignmentPattern tables) (replaceAssignment tables) text

end Patterns

def redactPatterns (entry : String) : List (RedactionCategory × Pattern Unit) → List Char →
    List Char × List SupportBundleRedactionFinding
  | [], chars => (chars, [])
  | (category, pattern) :: rest, chars =>
    let (redacted, count) := sub pattern (fun _ => ((redactionMarker category).toList, 1)) chars
    let (last, findings) := redactPatterns entry rest redacted
    (last, if count = 0 then findings else ⟨entry, category, count⟩ :: findings)

def redactTextEntry (entry text : String) : String × List SupportBundleRedactionFinding :=
  let (lines, fieldCount) := redactJsonLines tables text.toList
  let (redacted, findings) := redactPatterns entry (textPatterns tables) lines
  let (last, assigned) := redactTextSensitiveAssignments tables redacted
  (String.ofList last,
    if fieldCount + assigned = 0 then findings
    else findings ++ [⟨entry, .sensitiveField, fieldCount + assigned⟩])

end Taroai.Support
