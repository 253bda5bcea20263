import Mathlib.Data.Prod.Lex
import Mathlib.Data.String.Basic
import Taroai.Lib.Base64
import Taroai.Lib.JsonText
import Taroai.Lib.Keyset
import Taroai.Store.TextTimes

/-! The JSON text of a datetime in UTC, as pydantic writes it, and its reading. The other
spellings that pydantic reads are not read here. -/

namespace Taroai.Api

open Store Triggers

/-- `model_dump(mode="json")` of a datetime in UTC. -/
def jsonDatetime (t : Time) : String :=
  let date := dateOf t
  String.ofList
    (padded 4 date.year.toNat ++ '-' :: (padded 2 date.month.toNat ++ '-' ::
      (padded 2 date.day.toNat ++ 'T' :: (padded 2 (t % day / hour).toNat ++ ':' ::
        (padded 2 (t % hour / minute).toNat ++ ':' :: (padded 2 (t % minute / seconds 1).toNat ++
          (fraction (t % seconds 1).toNat ++ ['Z'])))))))

example : jsonDatetime (20636 * day + 40) = "2026-07-02T00:00:00.000040Z" := by decide +kernel

/-- `toordinal`, from zero. -/
def ordinalOf (date : Date) : Int :=
  daysBeforeYear date.year + ((monthLengths date.year).take (date.month - 1).toNat).sum +
    (date.day - 1)

def readSeparator (separator : Char) : List Char → Option (List Char)
  | [] => none
  | c :: rest => if c = separator then some rest else none

/-- The fraction, of six digits, and the `Z`. -/
def readFractionZ (text : List Char) : Option Nat :=
  match text with
  | '.' :: rest => do
    let (microsecond, rest) ← readPadded 6 rest
    if rest = ['Z'] then some microsecond else none
  | _ => if text = ['Z'] then some 0 else none

/-- The instant of these fields, where they are those of a date and of a time of day. -/
def instantOf (year month date hours minutes second microsecond : Nat) : Option Time :=
  let given : Date := ⟨year, month, date⟩
  if 1 ≤ year ∧ dateOfOrdinal (ordinalOf given) = given ∧ hours < 24 ∧ minutes < 60 ∧ second < 60 then
    some ((ordinalOf given - epochOrdinal) * day + hours * hour + minutes * minute + seconds second +
      microsecond)
  else none

def readDatetime (text : List Char) : Option Time := do
  let (year, text) ← readPadded 4 text
  let text ← readSeparator '-' text
  let (month, text) ← readPadded 2 text
  let text ← readSeparator '-' text
  let (date, text) ← readPadded 2 text
  let text ← readSeparator 'T' text
  let (hours, text) ← readPadded 2 text
  let text ← readSeparator ':' text
  let (minutes, text) ← readPadded 2 text
  let text ← readSeparator ':' text
  let (second, text) ← readPadded 2 text
  let microsecond ← readFractionZ text
  instantOf year month date hours minutes second microsecond

theorem monthAndDay_sum (month : Int) (lengths : List Int) (n : Int) (low : 0 ≤ n)
    (high : n < lengths.sum) :
    n = (lengths.take ((monthAndDay month lengths n).1 - month).toNat).sum +
      ((monthAndDay month lengths n).2 - 1) := by
  induction lengths generalizing month n with
  | nil =>
    rw [List.sum_nil] at high
    omega
  | cons length rest ih =>
    rw [List.sum_cons] at high
    rw [monthAndDay]
    by_cases here : n < length
    · rw [if_pos here]
      simp
    · rw [if_neg here]
      have later := (monthAndDay_spec (month + 1) rest (n - length) (by omega) (by omega)).1
      have rest_sum := ih (month + 1) (n - length) (by omega) (by omega)
      have step : ((monthAndDay (month + 1) rest (n - length)).1 - month).toNat =
          ((monthAndDay (month + 1) rest (n - length)).1 - (month + 1)).toNat + 1 := by omega
      rw [step, List.take_succ_cons, List.sum_cons]
      omega

theorem ordinalOf_dateOfOrdinal (n : Int) : ordinalOf (dateOfOrdinal n) = n := by
  obtain ⟨r, ordinal, low, high, fields⟩ := dateOfOrdinal_spec n
  have within := monthAndDay_sum 1 _ r low high
  rw [fields] at within
  dsimp only at within
  unfold ordinalOf
  omega

theorem readSeparator_cons (separator : Char) (rest : List Char) :
    readSeparator separator (separator :: rest) = some rest := if_pos rfl

theorem readFractionZ_fraction {n : Nat} (short : n < 10 ^ 6) :
    readFractionZ (fraction n ++ ['Z']) = some n := by
  unfold fraction
  by_cases whole : n = 0
  · rw [if_pos whole, whole]
    rfl
  · rw [if_neg whole, List.cons_append, readFractionZ, readPadded_padded short]
    rfl

theorem clock_field {u : Int} (limit unit : Int) (pos : 0 < unit) (low : 0 ≤ u)
    (below : u < limit * unit) (small : limit ≤ 100) :
    (u / unit).toNat < 10 ^ 2 ∧ ((u / unit).toNat : Int) = u / unit ∧ u / unit < limit := by
  have lower := Int.ediv_nonneg low pos.le
  have upper := Int.ediv_lt_of_lt_mul pos below
  omega

theorem clock_sum (t : Int) : (epochOrdinal + t / day - epochOrdinal) * day + t % day / hour * hour +
    t % hour / minute * minute + seconds (t % minute / seconds 1) + t % seconds 1 = t := by
  have day_is : day = 86400000000 := rfl
  have hour_is : hour = 3600000000 := rfl
  have minute_is : minute = 60000000 := rfl
  have second_is : seconds 1 = 1000000 := rfl
  rw [day_is, hour_is, minute_is, second_is, seconds]
  omega

theorem readDatetime_json {t : Time} (held : Representable t) :
    readDatetime (jsonDatetime t).toList = some t := by
  obtain ⟨⟨year, year'⟩, ⟨month, month'⟩, date, date'⟩ := date_bounds t held
  have day_low := Int.emod_nonneg t (b := day) (by decide)
  have hour_low := Int.emod_nonneg t (b := hour) (by decide)
  have minute_low := Int.emod_nonneg t (b := minute) (by decide)
  have second_low := Int.emod_nonneg t (b := seconds 1) (by decide)
  obtain ⟨hours, hours_value, hours_bound⟩ := clock_field 24 hour (by decide) day_low
    (Int.emod_lt_of_pos t (by decide)) (by decide)
  obtain ⟨minutes, minutes_value, minutes_bound⟩ := clock_field 60 minute (by decide)
    hour_low (Int.emod_lt_of_pos t (by decide)) (by decide)
  obtain ⟨second, second_value, second_bound⟩ := clock_field 60 (seconds 1) (by decide)
    minute_low (Int.emod_lt_of_pos t (by decide)) (by decide)
  have micros : (t % seconds 1).toNat < 10 ^ 6 := by
    have high := Int.emod_lt_of_pos t (b := seconds 1) (by decide)
    unfold seconds at second_low high ⊢
    omega
  have fields : (⟨(dateOf t).year.toNat, (dateOf t).month.toNat, (dateOf t).day.toNat⟩ : Date) =
      dateOf t := by
    rw [Int.toNat_of_nonneg (by omega), Int.toNat_of_nonneg (by omega),
      Int.toNat_of_nonneg (by omega)]
  have ordinal : ordinalOf (dateOf t) = epochOrdinal + t / day := ordinalOf_dateOfOrdinal _
  unfold jsonDatetime readDatetime
  simp only [String.toList_ofList, Option.bind_eq_bind]
  rw [readPadded_padded (by omega), Option.bind_some]
  simp only [readSeparator_cons, Option.bind_some]
  rw [readPadded_padded (by omega), Option.bind_some]
  simp only [readSeparator_cons, Option.bind_some]
  rw [readPadded_padded (by omega), Option.bind_some]
  simp only [readSeparator_cons, Option.bind_some]
  rw [readPadded_padded hours, Option.bind_some]
  simp only [readSeparator_cons, Option.bind_some]
  rw [readPadded_padded minutes, Option.bind_some]
  simp only [readSeparator_cons, Option.bind_some]
  rw [readPadded_padded second, Option.bind_some]
  simp only
  rw [readFractionZ_fraction micros, Option.bind_some, instantOf]
  simp only [fields]
  rw [if_pos ⟨by omega, by rw [ordinal]; rfl, by omega, by omega, by omega⟩, ordinal, hours_value,
    minutes_value, second_value, Int.toNat_of_nonneg second_low]
  exact congrArg some (clock_sum t)

end Taroai.Api

/-! `api/pagination.py`. A page is asked for with the cursor of the page before; the cursor is
the base64 text of a compact JSON object. Every `created_at` is in UTC. Of the records only
what the page order reads is named; the rest is the body. -/

namespace Taroai.Api

open Store Json

inductive SortDirection where
  | asc
  | desc
deriving DecidableEq, Repr

structure PageRequest where
  limit : Nat := 50
  cursor : Option String := none
  sortDirection : SortDirection := .desc
  limit_valid : 1 ≤ limit ∧ limit ≤ 100

structure PageCursor where
  createdAt : Time
  id : String
  id_nonempty : id ≠ ""

structure PageRecord (Body : Type) where
  createdAt : Time
  id : Option String := none
  key : Option String := none
  manifestId : Option String := none
  body : Body
  created : Representable createdAt

structure PageResult (Body : Type) where
  items : List (PageRecord Body)
  limit : Nat
  nextCursor : Option String
  hasMore : Bool

inductive PageError where
  | invalidPageCursor (message : String)
  | validation
deriving DecidableEq, Repr

/-- What a forged cursor may hold: a numeral that is no integer, and another spelling of a
datetime. -/
structure Readings where
  numeral : List Char → Json
  datetime : Json → Option Time

abbrev SortKey := Time ×ₗ String

variable {Body : Type}

def recordPageId (record : PageRecord Body) : Except PageError String :=
  match record.id, record.key, record.manifestId with
  | some id, _, _ => .ok id
  | none, some key, _ => .ok key
  | none, none, some manifestId => .ok manifestId
  | none, none, none =>
    .error (.invalidPageCursor "Record cannot be paginated without an id or key")

def cursorPayload (createdAt : Time) (id : String) : Json :=
  .dict (ofTexts [("created_at", jsonDatetime createdAt), ("id", id)])

def cursorText (createdAt : Time) (id : String) : String :=
  String.ofList (dumps (compact fun _ => "") (cursorPayload createdAt id))

def encodePageCursor (record : PageRecord Body) : Except PageError String := do
  let id ← recordPageId record
  if id ≠ "" then
    return String.ofList
      (Base64.strip (Base64.encode (cursorText record.createdAt id).toUTF8.data.toList))
  else throw .validation

/-- `PageCursor(**payload)`. -/
def pageCursorOf (readings : Readings) : Json → Option PageCursor
  | .dict items => do
    let createdAt ← match Items.get? items "created_at" with
      | some (.text written) => (readDatetime written.toList).or (readings.datetime (.text written))
      | some value => readings.datetime value
      | none => none
    match Items.get? items "id" with
    | some (.text id) =>
      if nonempty : id ≠ "" then some ⟨createdAt, id, nonempty⟩ else none
    | _ => none
  | _ => none

def decodePageCursor (readings : Readings) (value : String) : Except PageError PageCursor :=
  let read : Option PageCursor := do
    if value.toList.all fun c => c.toNat < 128 then
      let payload ← Base64.decode (Base64.pad value.toList)
      let written ← String.fromUTF8? payload.toByteArray
      pageCursorOf readings (← loads readings.numeral written.toList)
    else none
  match read with
  | some cursor => .ok cursor
  | none => .error (.invalidPageCursor "Invalid pagination cursor")

def PageCursor.sortKey (cursor : PageCursor) : SortKey := toLex (cursor.createdAt, cursor.id)

def recordIsAfterCursor (recordKey : SortKey) (cursor : PageCursor) (direction : SortDirection) :
    Bool :=
  if direction = .asc then recordKey > cursor.sortKey else recordKey < cursor.sortKey

def keyedRecords : List (PageRecord Body) → Except PageError (List (SortKey × PageRecord Body))
  | [] => .ok []
  | record :: rest => do
    let id ← recordPageId record
    let others ← keyedRecords rest
    return (toLex (record.createdAt, id), record) :: others

/-- `sorted(..., reverse=...)`, which keeps the order of equal keys either way. -/
def sortedRecords (direction : SortDirection) (keyed : List (SortKey × PageRecord Body)) :
    List (SortKey × PageRecord Body) :=
  if direction = .desc then keyed.insertionSort fun a b => b.1 ≤ a.1
  else keyed.insertionSort fun a b => a.1 ≤ b.1

def requestCursor (readings : Readings) : Option String → Except PageError (Option PageCursor)
  | none => .ok none
  | some value => (decodePageCursor readings value).map some

def nextPageCursor (hasMore : Bool) (pageRecords : List (PageRecord Body)) :
    Except PageError (Option String) :=
  match pageRecords.getLast? with
  | some last => if hasMore then (encodePageCursor last).map some else .ok none
  | none => .ok none

def paginateCreatedAtRecords (readings : Readings) (records : List (PageRecord Body))
    (request : PageRequest) : Except PageError (PageResult Body) := do
  let cursor ← requestCursor readings request.cursor
  let keyed ← keyedRecords records
  let pageCandidates := (sortedRecords request.sortDirection keyed).filter fun item =>
    cursor.all fun cursor => recordIsAfterCursor item.1 cursor request.sortDirection
  let visibleRecords := (pageCandidates.take (request.limit + 1)).map Prod.snd
  let pageRecords := visibleRecords.take request.limit
  let hasMore := decide (visibleRecords.length > request.limit)
  let nextCursor ← nextPageCursor hasMore pageRecords
  return ⟨pageRecords, request.limit, nextCursor, hasMore⟩

end Taroai.Api
