import Mathlib.Data.List.Sort
import Mathlib.Data.Rat.Defs

/-! JSON values as Python holds them: a dictionary keeps its items in order, `True` and `1.0`
equal `1`, a float is its exact value. `dumps` is `json.dumps` with ASCII output. How a float
is written is a parameter. -/

namespace Taroai

inductive Json where
  | null
  | bool (b : Bool)
  | int (n : Int)
  | float (q : Rat)
  | text (s : String)
  | list (xs : List Json)
  | dict (items : List (String × Json))

namespace Json

abbrev Items := List (String × Json)

/-- `dict.get`. -/
def Items.get? (items : Items) (key : String) : Option Json :=
  (items.find? fun item => item.1 = key).map Prod.snd

theorem mem_of_get? {items : Items} {key : String} {value : Json}
    (found : items.get? key = some value) : (key, value) ∈ items := by
  unfold Items.get? at found
  obtain ⟨item, present, rfl⟩ := Option.map_eq_some_iff.mp found
  have named := List.find?_some present
  rw [decide_eq_true_iff] at named
  rw [← named]
  exact List.mem_of_find?_eq_some present

/-- `items[key] = value`: in place when the key is there, else at the end. -/
def Items.set (items : Items) (key : String) (value : Json) : Items :=
  if items.any (fun item => item.1 = key) then
    items.map fun item => if item.1 = key then (key, value) else item
  else items ++ [(key, value)]

def number? : Json → Option Rat
  | .bool b => some (if b then 1 else 0)
  | .int n => some n
  | .float q => some q
  | .null | .text _ | .list _ | .dict _ => none

mutual

/-- `==`. Dictionaries are equal whatever the order of their items. -/
def same : Json → Json → Bool
  | .null, b => match b with
    | .null => true
    | _ => false
  | .text s, b => match b with
    | .text t => s = t
    | _ => false
  | .list xs, b => match b with
    | .list ys => sameAll xs ys
    | _ => false
  | .dict items, b => match b with
    | .dict others => decide (items.length = others.length) && sameItems items others
    | _ => false
  | .bool a, b => b.number? = some (if a then 1 else 0)
  | .int n, b => b.number? = some (n : Rat)
  | .float q, b => b.number? = some q

def sameAll : List Json → List Json → Bool
  | [], ys => ys.isEmpty
  | x :: xs, ys => match ys with
    | [] => false
    | y :: ys => same x y && sameAll xs ys

def sameItems : List (String × Json) → Items → Bool
  | [], _ => true
  | (key, value) :: rest, others =>
    (others.get? key).any (fun other => same value other) && sameItems rest others

end

section Texts

variable {ε : Type}

mutual

def mapTexts (f : String → Except ε String) : Json → Except ε Json
  | .text s => (f s).map .text
  | .list xs => (mapEach f xs).map .list
  | .dict items => (mapItems f items).map .dict
  | .null => .ok .null
  | .bool b => .ok (.bool b)
  | .int n => .ok (.int n)
  | .float q => .ok (.float q)

def mapEach (f : String → Except ε String) : List Json → Except ε (List Json)
  | [] => .ok []
  | x :: xs => do return (← mapTexts f x) :: (← mapEach f xs)

def mapItems (f : String → Except ε String) : List (String × Json) → Except ε Items
  | [] => .ok []
  | (key, value) :: rest => do return (key, ← mapTexts f value) :: (← mapItems f rest)

end

variable {f g : String → Except ε String}

theorem except_bind_ok {α β : Type} {m : Except ε α} {k : α → Except ε β} {b : β} :
    (m >>= k) = .ok b ↔ ∃ a, m = .ok a ∧ k a = .ok b := by
  cases m with
  | error e => simp [bind, Except.bind]
  | ok a => simp [bind, Except.bind]

theorem except_map_ok {α β : Type} {m : Except ε α} {k : α → β} {b : β} :
    m.map k = .ok b ↔ ∃ a, m = .ok a ∧ k a = b := by
  cases m with
  | error e => simp [Except.map]
  | ok a => simp [Except.map]

mutual

theorem mapTexts_ok : ∀ x : Json, mapTexts (ε := ε) .ok x = .ok x
  | .null | .bool _ | .int _ | .float _ | .text _ => by simp [mapTexts, Except.map]
  | .list xs => by simp [mapTexts, mapEach_ok xs, Except.map]
  | .dict items => by simp [mapTexts, mapItems_ok items, Except.map]

theorem mapEach_ok : ∀ xs : List Json, mapEach (ε := ε) .ok xs = .ok xs
  | [] => by simp [mapEach]
  | x :: xs => by simp [mapEach, mapTexts_ok x, mapEach_ok xs, bind, Except.bind, pure, Except.pure]

theorem mapItems_ok : ∀ items : List (String × Json), mapItems (ε := ε) .ok items = .ok items
  | [] => by simp [mapItems]
  | (key, value) :: rest => by
    simp [mapItems, mapTexts_ok value, mapItems_ok rest, bind, Except.bind, pure, Except.pure]

end

mutual

theorem mapTexts_comp : ∀ (x z : Json), mapTexts (fun s => f s >>= g) x = .ok z ↔
    ∃ y, mapTexts f x = .ok y ∧ mapTexts g y = .ok z
  | .null, z | .bool _, z | .int _, z | .float _, z => by simp [mapTexts]
  | .text s, z => by
    simp only [mapTexts, except_map_ok, except_bind_ok]
    constructor
    · rintro ⟨t, ⟨r, first, second⟩, rfl⟩
      exact ⟨.text r, ⟨r, first, rfl⟩, by simp [mapTexts, second, Except.map]⟩
    · rintro ⟨_, ⟨r, first, rfl⟩, second⟩
      simp only [mapTexts, except_map_ok] at second
      obtain ⟨t, second, rfl⟩ := second
      exact ⟨t, ⟨r, first, second⟩, rfl⟩
  | .list xs, z => by
    simp only [mapTexts, except_map_ok]
    constructor
    · rintro ⟨zs, both, rfl⟩
      obtain ⟨ys, first, second⟩ := (mapEach_comp xs zs).mp both
      exact ⟨.list ys, ⟨ys, first, rfl⟩, by simp [mapTexts, second, Except.map]⟩
    · rintro ⟨_, ⟨ys, first, rfl⟩, second⟩
      simp only [mapTexts, except_map_ok] at second
      obtain ⟨zs, second, rfl⟩ := second
      exact ⟨zs, (mapEach_comp xs zs).mpr ⟨ys, first, second⟩, rfl⟩
  | .dict items, z => by
    simp only [mapTexts, except_map_ok]
    constructor
    · rintro ⟨zs, both, rfl⟩
      obtain ⟨ys, first, second⟩ := (mapItems_comp items zs).mp both
      exact ⟨.dict ys, ⟨ys, first, rfl⟩, by simp [mapTexts, second, Except.map]⟩
    · rintro ⟨_, ⟨ys, first, rfl⟩, second⟩
      simp only [mapTexts, except_map_ok] at second
      obtain ⟨zs, second, rfl⟩ := second
      exact ⟨zs, (mapItems_comp items zs).mpr ⟨ys, first, second⟩, rfl⟩

theorem mapEach_comp : ∀ (xs zs : List Json), mapEach (fun s => f s >>= g) xs = .ok zs ↔
    ∃ ys, mapEach f xs = .ok ys ∧ mapEach g ys = .ok zs
  | [], zs => by simp [mapEach]
  | x :: xs, zs => by
    simp only [mapEach, except_bind_ok, pure, Except.pure, Except.ok.injEq]
    constructor
    · rintro ⟨z, one, others, rest, rfl⟩
      obtain ⟨y, first, second⟩ := (mapTexts_comp x z).mp one
      obtain ⟨ys, firsts, seconds⟩ := (mapEach_comp xs others).mp rest
      exact ⟨y :: ys, ⟨y, first, ys, firsts, rfl⟩, by
        simp [mapEach, second, seconds, bind, Except.bind, pure, Except.pure]⟩
    · rintro ⟨_, ⟨y, first, ys, firsts, rfl⟩, both⟩
      simp only [mapEach, except_bind_ok, pure, Except.pure, Except.ok.injEq] at both
      obtain ⟨z, second, others, seconds, rfl⟩ := both
      exact ⟨z, (mapTexts_comp x z).mpr ⟨y, first, second⟩, others,
        (mapEach_comp xs others).mpr ⟨ys, firsts, seconds⟩, rfl⟩

theorem mapItems_comp : ∀ (xs zs : List (String × Json)),
    mapItems (fun s => f s >>= g) xs = .ok zs ↔
      ∃ ys, mapItems f xs = .ok ys ∧ mapItems g ys = .ok zs
  | [], zs => by simp [mapItems]
  | (key, x) :: xs, zs => by
    simp only [mapItems, except_bind_ok, pure, Except.pure, Except.ok.injEq]
    constructor
    · rintro ⟨z, one, others, rest, rfl⟩
      obtain ⟨y, first, second⟩ := (mapTexts_comp x z).mp one
      obtain ⟨ys, firsts, seconds⟩ := (mapItems_comp xs others).mp rest
      exact ⟨(key, y) :: ys, ⟨y, first, ys, firsts, rfl⟩, by
        simp [mapItems, second, seconds, bind, Except.bind, pure, Except.pure]⟩
    · rintro ⟨_, ⟨y, first, ys, firsts, rfl⟩, both⟩
      simp only [mapItems, except_bind_ok, pure, Except.pure, Except.ok.injEq] at both
      obtain ⟨z, second, others, seconds, rfl⟩ := both
      exact ⟨z, (mapTexts_comp x z).mpr ⟨y, first, second⟩, others,
        (mapItems_comp xs others).mpr ⟨ys, firsts, seconds⟩, rfl⟩

end

mutual

theorem mapTexts_total (total : ∀ s, ∃ t, f s = .ok t) : ∀ x : Json, ∃ y, mapTexts f x = .ok y
  | .null | .bool _ | .int _ | .float _ => ⟨_, by rw [mapTexts]⟩
  | .text s => by
    obtain ⟨t, done⟩ := total s
    exact ⟨.text t, by rw [mapTexts, done]; rfl⟩
  | .list xs => by
    obtain ⟨ys, done⟩ := mapEach_total total xs
    exact ⟨.list ys, by rw [mapTexts, done]; rfl⟩
  | .dict items => by
    obtain ⟨ys, done⟩ := mapItems_total total items
    exact ⟨.dict ys, by rw [mapTexts, done]; rfl⟩

theorem mapEach_total (total : ∀ s, ∃ t, f s = .ok t) : ∀ xs : List Json, ∃ ys, mapEach f xs = .ok ys
  | [] => ⟨[], by rw [mapEach]⟩
  | x :: xs => by
    obtain ⟨y, one⟩ := mapTexts_total total x
    obtain ⟨ys, rest⟩ := mapEach_total total xs
    exact ⟨y :: ys, by rw [mapEach, one, rest]; rfl⟩

theorem mapItems_total (total : ∀ s, ∃ t, f s = .ok t) :
    ∀ items : List (String × Json), ∃ ys, mapItems f items = .ok ys
  | [] => ⟨[], by rw [mapItems]⟩
  | (key, x) :: rest => by
    obtain ⟨y, one⟩ := mapTexts_total total x
    obtain ⟨ys, others⟩ := mapItems_total total rest
    exact ⟨(key, y) :: ys, by rw [mapItems, one, others]; rfl⟩

end

end Texts

section Dumps

def hexDigit (n : Nat) : Char := Nat.digitChar (n % 16)

/-- `\uXXXX`. -/
def unicodeEscape (n : Nat) : List Char :=
  ['\\', 'u', hexDigit (n / 4096), hexDigit (n / 256), hexDigit (n / 16), hexDigit n]

def escapeChar (c : Char) : List Char :=
  if c = '"' then ['\\', '"']
  else if c = '\\' then ['\\', '\\']
  else if c = '\n' then ['\\', 'n']
  else if c = '\r' then ['\\', 'r']
  else if c = '\t' then ['\\', 't']
  else if c.toNat = 8 then ['\\', 'b']
  else if c.toNat = 12 then ['\\', 'f']
  else if 32 ≤ c.toNat ∧ c.toNat ≤ 126 then [c]
  else if c.toNat < 65536 then unicodeEscape c.toNat
  else
    unicodeEscape (55296 + (c.toNat - 65536) / 1024) ++
      unicodeEscape (56320 + (c.toNat - 65536) % 1024)

def quote (s : String) : List Char := '"' :: (s.toList.flatMap escapeChar ++ ['"'])

structure Style where
  comma : String := ", "
  colon : String := ": "
  sortKeys : Bool := false
  float : Rat → String

def Style.arrange (style : Style) (items : List (String × List Char)) : List (String × List Char) :=
  if style.sortKeys then items.insertionSort fun a b => a.1 ≤ b.1 else items

mutual

def dumps (style : Style) : Json → List Char
  | .null => "null".toList
  | .bool b => if b then "true".toList else "false".toList
  | .int n => (toString n).toList
  | .float q => (style.float q).toList
  | .text s => quote s
  | .list xs => '[' :: (List.intercalate style.comma.toList (dumpEach style xs) ++ [']'])
  | .dict items =>
    '{' :: (List.intercalate style.comma.toList ((style.arrange (dumpItems style items)).map
      fun item => quote item.1 ++ style.colon.toList ++ item.2) ++ ['}'])

def dumpEach (style : Style) : List Json → List (List Char)
  | [] => []
  | x :: xs => dumps style x :: dumpEach style xs

def dumpItems (style : Style) : List (String × Json) → List (String × List Char)
  | [] => []
  | (key, value) :: rest => (key, dumps style value) :: dumpItems style rest

end

end Dumps

section Equality

mutual

def decEq : (x y : Json) → Decidable (x = y)
  | .null, y => match y with
    | .null => isTrue rfl
    | .bool _ | .int _ | .float _ | .text _ | .list _ | .dict _ => isFalse nofun
  | .bool a, y => match y with
    | .bool b => decidable_of_iff (a = b) (by rw [Json.bool.injEq])
    | .null | .int _ | .float _ | .text _ | .list _ | .dict _ => isFalse nofun
  | .int a, y => match y with
    | .int b => decidable_of_iff (a = b) (by rw [Json.int.injEq])
    | .null | .bool _ | .float _ | .text _ | .list _ | .dict _ => isFalse nofun
  | .float a, y => match y with
    | .float b => decidable_of_iff (a = b) (by rw [Json.float.injEq])
    | .null | .bool _ | .int _ | .text _ | .list _ | .dict _ => isFalse nofun
  | .text a, y => match y with
    | .text b => decidable_of_iff (a = b) (by rw [Json.text.injEq])
    | .null | .bool _ | .int _ | .float _ | .list _ | .dict _ => isFalse nofun
  | .list xs, y => match y with
    | .list ys => match decEqEach xs ys with
      | isTrue same => isTrue (congrArg Json.list same)
      | isFalse other => isFalse fun same => other (Json.list.inj same)
    | .null | .bool _ | .int _ | .float _ | .text _ | .dict _ => isFalse nofun
  | .dict items, y => match y with
    | .dict others => match decEqItems items others with
      | isTrue same => isTrue (congrArg Json.dict same)
      | isFalse other => isFalse fun same => other (Json.dict.inj same)
    | .null | .bool _ | .int _ | .float _ | .text _ | .list _ => isFalse nofun

def decEqEach : (xs ys : List Json) → Decidable (xs = ys)
  | [], ys => match ys with
    | [] => isTrue rfl
    | _ :: _ => isFalse nofun
  | x :: xs, ys => match ys with
    | [] => isFalse nofun
    | y :: ys => match decEq x y, decEqEach xs ys with
      | isTrue here, isTrue later => isTrue (congrArg₂ List.cons here later)
      | isFalse other, _ => isFalse fun same => other (List.cons.inj same).1
      | _, isFalse other => isFalse fun same => other (List.cons.inj same).2

def decEqItems : (items others : List (String × Json)) → Decidable (items = others)
  | [], others => match others with
    | [] => isTrue rfl
    | _ :: _ => isFalse nofun
  | (key, value) :: rest, others => match others with
    | [] => isFalse nofun
    | (key', value') :: others =>
      match decEq value value', decEqItems rest others, (inferInstance : Decidable (key = key')) with
      | isTrue here, isTrue later, isTrue named =>
        isTrue (congrArg₂ List.cons (congrArg₂ Prod.mk named here) later)
      | isFalse other, _, _ => isFalse fun same => other (Prod.mk.inj (List.cons.inj same).1).2
      | _, isFalse other, _ => isFalse fun same => other (List.cons.inj same).2
      | _, _, isFalse other => isFalse fun same => other (Prod.mk.inj (List.cons.inj same).1).1

end

instance : DecidableEq Json := decEq

end Equality

end Json

end Taroai
