import Taroai.Support.Redaction

/-! What a redacted entry tells of the values under sensitive keys. A document that is a line of its
own is redacted alike whatever these values are: two texts that differ only in such values of such
a document become the same text. -/

namespace Taroai.Support

open Json Pattern

variable (tables : TextTables)

section Values

mutual

def SameButSecret : Json → Json → Prop
  | .dict items, other => match other with
    | .dict others => SameItemsButSecret items others
    | _ => False
  | .list xs, other => match other with
    | .list ys => SameEachButSecret xs ys
    | _ => False
  | .null, other => other = .null
  | .bool b, other => other = .bool b
  | .int n, other => other = .int n
  | .float q, other => other = .float q
  | .text s, other => other = .text s

def SameEachButSecret : List Json → List Json → Prop
  | [], ys => ys = []
  | x :: xs, ys => match ys with
    | [] => False
    | y :: ys => SameButSecret x y ∧ SameEachButSecret xs ys

def SameItemsButSecret : List (String × Json) → List (String × Json) → Prop
  | [], others => others = []
  | (key, value) :: rest, others => match others with
    | [] => False
    | (key', value') :: others =>
      key = key' ∧ (sensitive tables key = true ∨ SameButSecret value value') ∧
        SameItemsButSecret rest others

end

mutual

def HasSecret : Json → Prop
  | .dict items => HasSecretItem items
  | .list xs => HasSecretEach xs
  | .null | .bool _ | .int _ | .float _ | .text _ => False

def HasSecretEach : List Json → Prop
  | [] => False
  | x :: xs => HasSecret x ∨ HasSecretEach xs

def HasSecretItem : List (String × Json) → Prop
  | [] => False
  | (key, value) :: rest => sensitive tables key = true ∨ HasSecret value ∨ HasSecretItem rest

end

variable {tables}

mutual

theorem redactJsonValue_same : ∀ {x y : Json}, SameButSecret tables x y →
    redactJsonValue tables x = redactJsonValue tables y
  | .dict items, y, same => by
    unfold SameButSecret at same
    cases y with
    | dict others => simp only [redactJsonValue, redactItems_same same]
    | null | bool | int | float | text | list => exact same.elim
  | .list xs, y, same => by
    unfold SameButSecret at same
    cases y with
    | list ys => simp only [redactJsonValue, redactEach_same same]
    | null | bool | int | float | text | dict => exact same.elim
  | .null, y, same | .bool _, y, same | .int _, y, same | .float _, y, same | .text _, y, same => by
    unfold SameButSecret at same
    rw [same]

theorem redactEach_same : ∀ {xs ys : List Json}, SameEachButSecret tables xs ys →
    redactEach tables xs = redactEach tables ys
  | [], ys, same => by
    unfold SameEachButSecret at same
    rw [same]
  | x :: xs, ys, same => by
    unfold SameEachButSecret at same
    cases ys with
    | nil => exact same.elim
    | cons y ys => simp only [redactEach, redactJsonValue_same same.1, redactEach_same same.2]

theorem redactItems_same : ∀ {items others : List (String × Json)},
    SameItemsButSecret tables items others → redactItems tables items = redactItems tables others
  | [], others, same => by
    unfold SameItemsButSecret at same
    rw [same]
  | (key, value) :: rest, others, same => by
    unfold SameItemsButSecret at same
    match others, same with
    | (key', value') :: others, same =>
      obtain ⟨rfl, value_same, rest_same⟩ := same
      unfold redactItems
      rw [redactItems_same rest_same]
      by_cases secret : sensitive tables key = true
      · rw [if_pos secret, if_pos secret]
      · rw [if_neg secret, if_neg secret, redactJsonValue_same (value_same.resolve_left secret)]

end

mutual

theorem redactJsonValue_count : ∀ {x : Json}, HasSecret tables x → 0 < (redactJsonValue tables x).2
  | .dict items, secret => by
    unfold HasSecret at secret
    unfold redactJsonValue
    exact redactItems_count secret
  | .list xs, secret => by
    unfold HasSecret at secret
    unfold redactJsonValue
    exact redactEach_count secret
  | .null, secret | .bool _, secret | .int _, secret | .float _, secret | .text _, secret => by
    unfold HasSecret at secret
    exact secret.elim

theorem redactEach_count : ∀ {xs : List Json}, HasSecretEach tables xs →
    0 < (redactEach tables xs).2
  | [], secret => by
    unfold HasSecretEach at secret
    exact secret.elim
  | x :: xs, secret => by
    unfold HasSecretEach at secret
    unfold redactEach
    rcases secret with here | later
    · have := redactJsonValue_count here
      simp only
      omega
    · have := redactEach_count later
      simp only
      omega

theorem redactItems_count : ∀ {items : List (String × Json)}, HasSecretItem tables items →
    0 < (redactItems tables items).2
  | [], secret => by
    unfold HasSecretItem at secret
    exact secret.elim
  | (key, value) :: rest, secret => by
    unfold HasSecretItem at secret
    unfold redactItems
    by_cases own : sensitive tables key = true
    · rw [if_pos own]
      simp only
      omega
    · rw [if_neg own]
      rcases secret with here | inside | later
      · exact absurd here own
      · have := redactJsonValue_count inside
        simp only
        omega
      · have := redactItems_count later
        simp only
        omega

end

end Values

section Lines

theorem lineBreak_of_lineEnd {c : Char} (ends : lineEnd c = true) : lineBreak c = true := by
  unfold lineEnd at ends
  rw [Bool.or_eq_true, decide_eq_true_iff, decide_eq_true_iff] at ends
  rcases ends with rfl | rfl <;> decide

theorem linesFrom_unbroken {body : List Char} (unbroken : ∀ c ∈ body, lineBreak c = false)
    (line after : List Char) : linesFrom line (body ++ after) = linesFrom (body.reverse ++ line) after := by
  induction body generalizing line with
  | nil => rfl
  | cons c body ih =>
    obtain ⟨here, rest⟩ := List.forall_mem_cons.mp unbroken
    have apart : c ≠ '\r' := by
      rintro rfl
      cases here
    rw [List.cons_append, linesFrom]
    · rw [here, if_neg Bool.false_ne_true, ih rest, List.reverse_cons, List.append_assoc]
      rfl
    · intro _ cr _
      exact apart cr

theorem linesFrom_next {c : Char} {rest line : List Char}
    (apart : ∀ tail, c = '\r' → rest = '\n' :: tail → False) : linesFrom line (c :: rest) =
      if lineBreak c then (line.reverse ++ [c]) :: linesFrom [] rest
      else linesFrom (c :: line) rest := by
  rw [linesFrom]
  exact apart

theorem crlf_apart {c : Char} {rest after : List Char}
    (apart : ∀ tail, c = '\r' → rest = '\n' :: tail → False) (next : after.head? ≠ some '\n') :
    ∀ tail, c = '\r' → rest ++ after = '\n' :: tail → False := by
  intro tail carriage starts
  cases rest with
  | nil =>
    rw [List.nil_append] at starts
    exact next (by rw [starts]; rfl)
  | cons d rest =>
    rw [List.cons_append, List.cons_eq_cons] at starts
    exact apart rest carriage (by rw [starts.1])

theorem linesFrom_append {before after : List Char} (line : List Char)
    (broken : ∀ c ∈ before.getLast?, lineBreak c = true) (nonempty : before ≠ [])
    (next : after.head? ≠ some '\n') :
    linesFrom line (before ++ after) = linesFrom line before ++ linesFrom [] after := by
  induction line, before using linesFrom.induct with
  | case1 => exact absurd rfl nonempty
  | case2 => exact absurd rfl nonempty
  | case3 line rest ih =>
    rw [List.cons_append, List.cons_append, linesFrom, linesFrom]
    cases rest with
    | nil => simp [linesFrom]
    | cons c rest =>
      rw [ih (by simpa using broken) (List.cons_ne_nil _ _), List.cons_append]
  | case4 line c rest notEnd breaks ih =>
    rw [List.cons_append, linesFrom_next (crlf_apart notEnd next), linesFrom_next notEnd,
      if_pos breaks, if_pos breaks]
    cases rest with
    | nil => simp [linesFrom]
    | cons d rest => rw [ih (by simpa using broken) (List.cons_ne_nil _ _), List.cons_append]
  | case5 line c rest notEnd unbroken ih =>
    rw [List.cons_append, linesFrom_next (crlf_apart notEnd next), linesFrom_next notEnd,
      if_neg unbroken, if_neg unbroken]
    cases rest with
    | nil => exact absurd (broken c rfl) unbroken
    | cons d rest => exact ih (by simpa using broken) (List.cons_ne_nil _ _)

theorem linesFrom_ending {after : List Char} (ends : ∀ c ∈ after.head?, lineEnd c = true) :
    ∃ ending others, (∀ c ∈ ending, lineEnd c = true) ∧
      ∀ line, line ≠ [] → linesFrom line after = (line.reverse ++ ending) :: others := by
  cases after with
  | nil =>
    refine ⟨[], [], by simp, fun line nonempty => ?_⟩
    rw [linesFrom, List.append_nil]
    exact nonempty
  | cons c rest =>
    have here : lineEnd c = true := ends c rfl
    by_cases pair : ∃ tail, c = '\r' ∧ rest = '\n' :: tail
    · obtain ⟨tail, rfl, rfl⟩ := pair
      refine ⟨['\r', '\n'], linesFrom [] tail, forall_mem_of_all (by decide), fun line _ => ?_⟩
      rw [linesFrom]
    · refine ⟨[c], linesFrom [] rest, by simpa using here, fun line _ => ?_⟩
      rw [linesFrom_next fun tail carriage starts => pair ⟨tail, carriage, starts⟩,
        if_pos (lineBreak_of_lineEnd here)]

variable {doc ending : List Char}

theorem rdropWhile_ending (unbroken : ∀ c ∈ doc, lineBreak c = false)
    (ends : ∀ c ∈ ending, lineEnd c = true) : (doc ++ ending).rdropWhile lineEnd = doc := by
  have last : ∀ c ∈ doc, lineEnd c ≠ true := by
    intro c member ended
    have breaks := lineBreak_of_lineEnd ended
    rw [unbroken c member] at breaks
    cases breaks
  rw [List.rdropWhile, List.reverse_append, List.dropWhile_append_of_pos (by simpa using ends)]
  change List.rdropWhile lineEnd doc = doc
  rw [List.rdropWhile_eq_self_iff]
  exact fun nonempty => last _ (List.getLast_mem nonempty)

theorem rtakeWhile_ending (unbroken : ∀ c ∈ doc, lineBreak c = false)
    (ends : ∀ c ∈ ending, lineEnd c = true) : (doc ++ ending).rtakeWhile lineEnd = ending := by
  have parts : (doc ++ ending).rdropWhile lineEnd ++ (doc ++ ending).rtakeWhile lineEnd =
      doc ++ ending := by
    rw [List.rdropWhile, List.rtakeWhile, ← List.reverse_append, List.takeWhile_append_dropWhile,
      List.reverse_reverse]
  rw [rdropWhile_ending unbroken ends] at parts
  exact List.append_cancel_left parts

end Lines

section Entries

structure StandsAlone (before doc after : List Char) : Prop where
  unbroken : ∀ c ∈ doc, lineBreak c = false
  begins : ∀ c ∈ before.getLast?, lineBreak c = true
  ends : ∀ c ∈ after.head?, lineEnd c = true

def Opens (doc : List Char) : Prop :=
  (doc.dropWhile isSpace).head? = some '{' ∨ (doc.dropWhile isSpace).head? = some '['

variable {tables} {before doc after : List Char}

theorem Opens.nonempty (opens : Opens doc) : doc ≠ [] := by
  rintro rfl
  rcases opens with none | none <;> cases none

theorem splitLines_alone (alone : StandsAlone before doc after) (opens : Opens doc) :
    splitLines (before ++ (doc ++ after)) = splitLines before ++ linesFrom [] (doc ++ after) := by
  unfold splitLines
  by_cases empty : before = []
  · rw [empty]
    rfl
  · refine linesFrom_append [] alone.begins empty ?_
    cases doc with
    | nil => exact absurd rfl opens.nonempty
    | cons c doc =>
      intro newline
      have here := alone.unbroken c List.mem_cons_self
      rw [Option.some.inj newline] at here
      cases here

theorem redactJsonLine_alone {ending : List Char} {x : Json}
    (unbroken : ∀ c ∈ doc, lineBreak c = false) (ends : ∀ c ∈ ending, lineEnd c = true)
    (opens : Opens doc) (reads : loads tables.numeral doc = some x)
    (counted : 0 < (redactJsonValue tables x).2) :
    redactJsonLine tables (doc ++ ending) =
      (dumpsSorted tables.float (redactJsonValue tables x).1 ++ ending, (redactJsonValue tables x).2) := by
  unfold redactJsonLine
  rw [rdropWhile_ending unbroken ends, rtakeWhile_ending unbroken ends]
  have opening : (doc.dropWhile isSpace).head? = some '{' ∨ (doc.dropWhile isSpace).head? = some '[' :=
    opens
  dsimp only
  rw [if_pos opening, reads]
  exact if_neg (by omega)

theorem redactedLines_alone {x : Json} (alone : StandsAlone before doc after) (opens : Opens doc)
    (reads : loads tables.numeral doc = some x) (counted : 0 < (redactJsonValue tables x).2)
    {ending : List Char} {others : List (List Char)} (ends : ∀ c ∈ ending, lineEnd c = true)
    (rest : ∀ line, line ≠ [] → linesFrom line after = (line.reverse ++ ending) :: others) :
    (splitLines (before ++ (doc ++ after))).map (redactJsonLine tables) =
      (splitLines before).map (redactJsonLine tables) ++
        (dumpsSorted tables.float (redactJsonValue tables x).1 ++ ending,
          (redactJsonValue tables x).2) :: others.map (redactJsonLine tables) := by
  have reversed : doc.reverse ≠ [] := fun empty => opens.nonempty (List.reverse_eq_nil_iff.mp empty)
  rw [splitLines_alone alone opens, linesFrom_unbroken alone.unbroken, List.append_nil,
    rest _ reversed, List.reverse_reverse, List.map_append, List.map_cons,
    redactJsonLine_alone alone.unbroken ends opens reads counted]

theorem redactJsonLines_alone {doc' : List Char} {x y : Json}
    (alone : StandsAlone before doc after) (alone' : StandsAlone before doc' after)
    (opens : Opens doc) (opens' : Opens doc') (reads : loads tables.numeral doc = some x)
    (reads' : loads tables.numeral doc' = some y) (counted : 0 < (redactJsonValue tables x).2)
    (same : SameButSecret tables x y) :
    redactJsonLines tables (before ++ (doc ++ after)) =
      redactJsonLines tables (before ++ (doc' ++ after)) := by
  obtain ⟨ending, others, ends, rest⟩ := linesFrom_ending alone.ends
  have counted' : 0 < (redactJsonValue tables y).2 := redactJsonValue_same same ▸ counted
  unfold redactJsonLines
  dsimp only
  rw [redactedLines_alone alone opens reads counted ends rest,
    redactedLines_alone alone' opens' reads' counted' ends rest, redactJsonValue_same same]
  rw [if_pos, if_pos]
  all_goals
    rw [List.any_append, List.any_cons, Bool.or_eq_true, Bool.or_eq_true]
    exact Or.inr (Or.inl (decide_eq_true counted'))

end Entries

section Bundles

/-- The values under the sensitive keys of a document in an entry do not survive: with a document
that differs in them alone the entry is redacted to the same text and the same findings. -/
def Hides (before doc doc' after : String) : Prop :=
  ∀ x y, loads tables.numeral doc.toList = some x → loads tables.numeral doc'.toList = some y →
    HasSecret tables x → SameButSecret tables x y → Opens doc.toList → Opens doc'.toList →
    ∀ entry, redactTextEntry tables entry (before ++ doc ++ after) =
      redactTextEntry tables entry (before ++ doc' ++ after)

variable {tables} {before doc doc' after : String}

def asciiTables : TextTables where
  lower s := String.ofList (s.toList.map Char.toLower)
  word c := c.isAlphanum || c = '_'
  alike a b := a.toLower = b.toLower
  numeral _ := .null
  float _ := ""

def login (password : String) : String := "\x7b\"password\": \"" ++ password ++ "\"\x7d"

def prettyLogin (password : String) : String := "\x7b\n  \"password\": \"" ++ password ++ "\"\n\x7d"

def named (password : String) : Json := .dict [("password", .text password)]

theorem named_secret (password : String) : HasSecret asciiTables (named password) :=
  Or.inl (by decide)

theorem named_same (password password' : String) :
    SameButSecret asciiTables (named password) (named password') :=
  ⟨rfl, Or.inl (by decide), rfl⟩

end Bundles

end Taroai.Support
