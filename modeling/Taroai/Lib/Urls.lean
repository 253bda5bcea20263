import Mathlib.Data.List.Basic
import Taroai.Lib.JsonText

/-! `urllib.parse.urlsplit` and the attribute `hostname` of its result. The parameters are
`str.lower` and the network locations that the checks of bracketed addresses and of Unicode
compatibility refuse. -/

namespace Taroai

structure SplitResult where
  scheme : List Char
  netloc : List Char
  path : List Char
  query : List Char
  fragment : List Char
deriving DecidableEq

namespace UrlSplit

def breakAt (p : Char → Bool) (text : List Char) : List Char × List Char :=
  (text.takeWhile fun c => !p c, text.dropWhile fun c => !p c)

/-- `text.partition(c)`, without the separator. -/
def partition (c : Char) (text : List Char) : List Char × List Char :=
  ((breakAt (· = c) text).1, (breakAt (· = c) text).2.drop 1)

def asciiLetter (c : Char) : Bool := c.isUpper || c.isLower

def schemeChar (c : Char) : Bool :=
  asciiLetter c || c.isDigit || c = '+' || c = '-' || c = '.'

/-- Leading control characters and spaces go, tabs and line ends everywhere. -/
def cleaned (url : List Char) : List Char :=
  (url.dropWhile fun c => c.toNat ≤ 32).filter fun c => c ≠ '\t' && c ≠ '\n' && c ≠ '\r'

def splitScheme (url : List Char) : List Char × List Char :=
  let (front, back) := breakAt (· = ':') url
  if back ≠ [] ∧ front.head?.any asciiLetter ∧ front.all schemeChar then
    (front.map Char.toLower, back.drop 1)
  else ([], url)

def splitNetloc (url : List Char) : List Char × List Char :=
  if "//".toList <+: url then breakAt (fun c => c = '/' || c = '?' || c = '#') (url.drop 2)
  else ([], url)

/-- Nothing where `urlsplit` raises. -/
def urlsplit (refused : List Char → Bool) (url : List Char) : Option SplitResult :=
  let (scheme, rest) := splitScheme (cleaned url)
  let (netloc, rest) := splitNetloc rest
  if netloc.contains '[' ≠ netloc.contains ']' ∨ refused netloc = true then none
  else
    let (rest, fragment) := partition '#' rest
    let (path, query) := partition '?' rest
    some { scheme, netloc, path, query, fragment }

/-- `netloc.rpartition("@")[2]` -/
def afterLastAt (netloc : List Char) : List Char :=
  (netloc.reverse.takeWhile fun c => c ≠ '@').reverse

def hostname (lower : List Char → List Char) (parts : SplitResult) : Option (List Char) :=
  let hostinfo := afterLastAt parts.netloc
  let host :=
    if hostinfo.contains '[' then (partition ']' (partition '[' hostinfo).2).1
    else (partition ':' hostinfo).1
  if host = [] then none
  else
    let (name, zone) := breakAt (· = '%') host
    some (lower name ++ zone)

end UrlSplit

end Taroai

/-! `urllib.parse.unquote`: percent escapes become bytes, and the bytes of a stretch of ASCII
characters are read as UTF-8, with a replacement character for each longest start of a character
that is not completed. -/

namespace Taroai.Unquote

open Json (hexValue?)

/-- A character of which bytes are still to come: how many, the bounds of the next one, and the
bits so far. -/
structure Pending where
  owed : Nat
  low : Nat := 0x80
  high : Nat := 0xbf
  code : Nat
  continues : 0x80 ≤ low := by decide

def replacement : Char := Char.ofNat 0xfffd

def startByte (b : Nat) : List Char × Option Pending :=
  if b < 0x80 then ([Char.ofNat b], none)
  else if 0xc2 ≤ b ∧ b ≤ 0xdf then ([], some { owed := 1, code := b - 0xc0 })
  else if b = 0xe0 then ([], some { owed := 2, low := 0xa0, code := 0 })
  else if b = 0xed then ([], some { owed := 2, high := 0x9f, code := 0xd })
  else if 0xe1 ≤ b ∧ b ≤ 0xef then ([], some { owed := 2, code := b - 0xe0 })
  else if b = 0xf0 then ([], some { owed := 3, low := 0x90, code := 0 })
  else if b = 0xf4 then ([], some { owed := 3, high := 0x8f, code := 4 })
  else if 0xf1 ≤ b ∧ b ≤ 0xf3 then ([], some { owed := 3, code := b - 0xf0 })
  else ([replacement], none)

def flush : Option Pending → List Char
  | none => []
  | some _ => [replacement]

def feed (pending : Option Pending) (b : Nat) : List Char × Option Pending :=
  match pending with
  | none => startByte b
  | some p =>
    if p.low ≤ b ∧ b ≤ p.high then
      if p.owed = 1 then ([Char.ofNat (p.code * 64 + (b - 0x80))], none)
      else ([], some { owed := p.owed - 1, code := p.code * 64 + (b - 0x80) })
    else (replacement :: (startByte b).1, (startByte b).2)

def unquoteFrom (pending : Option Pending) : List Char → List Char
  | [] => flush pending
  | '%' :: a :: b :: rest =>
    match hexValue? a, hexValue? b with
    | some high, some low =>
      let (out, next) := feed pending (16 * high + low)
      out ++ unquoteFrom next rest
    | _, _ =>
      let (out, next) := feed pending 0x25
      out ++ unquoteFrom next (a :: b :: rest)
  | c :: rest =>
    if c.toNat < 0x80 then
      let (out, next) := feed pending c.toNat
      out ++ unquoteFrom next rest
    else flush pending ++ c :: unquoteFrom none rest

def unquote (text : List Char) : List Char := unquoteFrom none text

example : unquote "a%20b%E4%BD%A0%zz%E4%BD%".toList = "a b你%zz�%".toList := by decide

end Taroai.Unquote
