import Mathlib
import Taroai.Lib.Json
import Taroai.Triggers.Cron

/-! What a field of a cron expression means: a list of items between commas, each with a span
and a step, and the union of their progressions. The parser takes a hyphen for the sign of a
range before it reads a number, so only the end of a range and a step may have a minus. -/

namespace Taroai.Triggers

section Numbers

/-- The characters of a text that `int` reads. -/
def ofNumber (c : Char) : Bool :=
  intSpace c || (decimal? c).isSome || c == '_' || c == '-' || c == '+'

theorem readDigits_chars {value n : Nat} {text : List Char}
    (reads : readDigits value text = some n) :
    ∀ c ∈ text, ofNumber c = true := by
  induction value, text using readDigits.induct with
  | case1 => simp
  | case2 value c rest ih =>
    rw [readDigits] at reads
    obtain ⟨digit, read, reads⟩ := Option.bind_eq_some_iff.mp reads
    have first : ofNumber c = true := by simp [ofNumber, read]
    exact List.forall_mem_cons.mpr ⟨rfl, List.forall_mem_cons.mpr ⟨first, ih digit reads⟩⟩
  | case3 value c rest alone ih =>
    rw [readDigits] at reads
    · obtain ⟨digit, read, reads⟩ := Option.bind_eq_some_iff.mp reads
      have first : ofNumber c = true := by simp [ofNumber, read]
      exact List.forall_mem_cons.mpr ⟨first, ih digit reads⟩
    · exact alone

theorem readNat_chars {n : Nat} {text : List Char} (reads : readNat text = some n) :
    ∀ c ∈ text, ofNumber c = true := by
  cases text with
  | nil => cases reads
  | cons c rest =>
    obtain ⟨digit, read, reads⟩ := Option.bind_eq_some_iff.mp reads
    have first : ofNumber c = true := by simp [ofNumber, read]
    exact List.forall_mem_cons.mpr ⟨first, readDigits_chars reads⟩

theorem readSigned_chars {n : Int} {text : List Char} (reads : readSigned text = some n) :
    ∀ c ∈ text, ofNumber c = true := by
  unfold readSigned at reads
  split at reads
  all_goals
    obtain ⟨value, reads, -⟩ := Option.map_eq_some_iff.mp reads
    obtain ⟨size, reads, -⟩ := Option.bind_eq_some_iff.mp reads
    have rest := readNat_chars reads
  · exact List.forall_mem_cons.mpr ⟨rfl, rest⟩
  · exact List.forall_mem_cons.mpr ⟨rfl, rest⟩
  · exact rest

theorem toInt_chars {n : Int} {text : List Char} (reads : toInt text = .ok n) :
    ∀ c ∈ text, ofNumber c = true := by
  obtain ⟨front, back, whole, front_space, back_space⟩ := exists_stripped intSpace text
  have inside : ∀ c ∈ stripChars intSpace text, ofNumber c = true := by
    unfold toInt at reads
    dsimp only at reads
    split at reads
    · next found => exact readSigned_chars found
    · cases reads
  have space : ∀ c, intSpace c = true → ofNumber c = true := by
    intro c space
    simp [ofNumber, space]
  intro c among
  rw [whole, List.mem_append, List.mem_append] at among
  rcases among with front_c | inner | back_c
  · exact space c (front_space c front_c)
  · exact inside c inner
  · exact space c (back_space c back_c)

theorem not_mem_number {n : Int} {text : List Char} (reads : toInt text = .ok n) {c : Char}
    (other : ofNumber c = false) : c ∉ text := by
  intro among
  rw [toInt_chars reads c among] at other
  cases other

end Numbers

section Splitting

variable {sep : Char}

theorem splitAtFirst_eq_none {text : List Char} : splitAtFirst sep text = none ↔ sep ∉ text := by
  induction text with
  | nil => simp [splitAtFirst]
  | cons c rest ih =>
    rw [splitAtFirst]
    split
    · next here => simp [here]
    · next other =>
      rw [Option.map_eq_none_iff, ih, List.mem_cons, not_or, and_iff_right (Ne.symm other)]

theorem splitAtFirst_append {before : List Char} (absent : sep ∉ before) (after : List Char) :
    splitAtFirst sep (before ++ sep :: after) = some (before, after) := by
  induction before with
  | nil => simp [splitAtFirst]
  | cons c before ih =>
    obtain ⟨other, absent⟩ := List.ne_and_not_mem_of_not_mem_cons absent
    rw [List.cons_append, splitAtFirst, if_neg (Ne.symm other), ih absent]
    rfl

theorem of_splitAtFirst {text before after : List Char}
    (found : splitAtFirst sep text = some (before, after)) :
    text = before ++ sep :: after ∧ sep ∉ before := by
  by_cases among : sep ∈ text
  · obtain ⟨front, back, rfl, absent⟩ := List.eq_append_cons_of_mem among
    rw [splitAtFirst_append absent] at found
    cases found
    exact ⟨rfl, absent⟩
  · rw [splitAtFirst_eq_none.mpr among] at found
    cases found

theorem splitOn_eq (text : List Char) : splitOn sep text = text.splitOn sep := by
  induction text with
  | nil => rfl
  | cons c rest ih =>
    rw [List.splitOn_cons_eq_if_modifyHead, ← ih, splitOn, splitOn, splitParts]
    by_cases here : c = sep
    · simp [here]
    · simp [here]

end Splitting

section Grammar

/-- What an item names before its step: all values, one, or those from one to another. -/
inductive Span
  | star
  | one (value : Int)
  | range (first last : Int)

namespace Span

def first (minimum : Int) : Span → Int
  | star => minimum
  | one value => value
  | range first _ => first

def last (maximum : Int) : Span → Int
  | star => maximum
  | one value => value
  | range _ last => last

/-- The texts of a span; the number alone and the first one of a range are further restricted. -/
inductive WrittenAs (leads : List Char → Prop) : Span → List Char → Prop
  | star : WrittenAs leads star ['*']
  | one {text : List Char} {value : Int} : leads text → toInt text = .ok value →
      WrittenAs leads (one value) text
  | range {start stop : List Char} {first last : Int} : leads start → toInt start = .ok first →
      toInt stop = .ok last → WrittenAs leads (range first last) (start ++ '-' :: stop)

end Span

structure Item where
  span : Span
  step : Int

namespace Item

inductive WrittenAs (leads : List Char → Prop) : Item → List Char → Prop
  | plain {span : Span} {text : List Char} : span.WrittenAs leads text →
      WrittenAs leads ⟨span, 1⟩ text
  | stepped {span : Span} {step : Int} {text stepText : List Char} : span.WrittenAs leads text →
      toInt stepText = .ok step → WrittenAs leads ⟨span, step⟩ (text ++ '/' :: stepText)

structure Within (item : Item) (minimum maximum : Int) : Prop where
  step : 1 ≤ item.step
  first : minimum ≤ item.span.first minimum
  last : item.span.last maximum ≤ maximum
  ordered : item.span.first minimum ≤ item.span.last maximum

def values (item : Item) (minimum maximum : Int) : Set Int :=
  {v | ∃ k : Nat, v = item.span.first minimum + k * item.step ∧ v ≤ item.span.last maximum}

end Item

/-- The field is a star or a list of items, and these are the values of all of them. -/
def Denotes (leads : List Char → Prop) (minimum maximum : Int) (field : List Char)
    (values : Set Int) : Prop :=
  field = ['*'] ∧ values = Set.Icc minimum maximum ∨
    ∃ items : List (Item × List Char), items ≠ [] ∧
      field = [','].intercalate (items.map Prod.snd) ∧
      (∀ entry ∈ items, entry.1.WrittenAs leads entry.2 ∧ entry.1.Within minimum maximum) ∧
      values = ⋃ entry ∈ items, entry.1.values minimum maximum

def FieldsDenote (leads : List Char → Prop) (expression : String)
    (minutes hours daysOfMonth months daysOfWeek : Set Int) : Prop :=
  ∃ minuteField hourField dayField monthField weekdayField weekdays,
    splitFields expression.toList = [minuteField, hourField, dayField, monthField, weekdayField] ∧
    Denotes leads 0 59 minuteField minutes ∧ Denotes leads 0 23 hourField hours ∧
    Denotes leads 1 31 dayField daysOfMonth ∧ Denotes leads 1 12 monthField months ∧
    Denotes leads 0 7 weekdayField weekdays ∧
    daysOfWeek = (fun value => if value = 7 then 0 else value) '' weekdays

/-- A part is split at its first hyphen, so a lone number and the start of a range have none. -/
def NoHyphen (text : List Char) : Prop := '-' ∉ text

end Grammar

section Parts

variable {minimum maximum : Int}

theorem Span.WrittenAs.no_separator {leads : List Char → Prop} {span : Span} {text : List Char}
    (written : span.WrittenAs leads text) {c : Char} (other : ofNumber c = false)
    (not_star : c ≠ '*') : c ∉ text := by
  cases written with
  | star => simpa using not_star
  | one _ reads => exact not_mem_number reads other
  | range _ reads_first reads_last =>
    rw [List.mem_append, List.mem_cons, not_or, not_or]
    refine ⟨not_mem_number reads_first other, ?_, not_mem_number reads_last other⟩
    rintro rfl
    cases other

theorem Item.WrittenAs.no_comma {leads : List Char → Prop} {item : Item} {text : List Char}
    (written : item.WrittenAs leads text) : ',' ∉ text := by
  cases written with
  | plain span => exact span.no_separator rfl (by decide)
  | stepped span reads =>
    rw [List.mem_append, List.mem_cons, not_or, not_or]
    exact ⟨span.no_separator rfl (by decide), by decide, not_mem_number reads rfl⟩

def readSpan (rangePart : List Char) (minimum maximum : Int) : Except String (Int × Int) :=
  if rangePart = ['*'] then pure (minimum, maximum)
  else match splitAtFirst '-' rangePart with
    | some (startPart, endPart) => do
      let start ← toInt startPart
      let stop ← toInt endPart
      pure (start, stop)
    | none => do
      let start ← toInt rangePart
      pure (start, start)

/-- The end of `parseCronPart`. -/
def progression (minimum maximum start stop step : Int) : Except String (List Int) :=
  if start < minimum ∨ stop > maximum ∨ start > stop then
    throw "cron field value is outside supported range"
  else pure ((List.range ((stop - start) / step + 1).toNat).map fun i => start + i * step)

theorem bind_readSpan {rangePart : List Char} (follow : Int × Int → Except String (List Int)) :
    (readSpan rangePart minimum maximum >>= follow) =
      (if rangePart = ['*'] then follow (minimum, maximum)
      else match splitAtFirst '-' rangePart with
        | some (startPart, endPart) => do
          let start ← toInt startPart
          let stop ← toInt endPart
          follow (start, stop)
        | none => do
          let start ← toInt rangePart
          follow (start, start)) := by
  unfold readSpan
  split
  · rfl
  · cases splitAtFirst '-' rangePart with
    | none => cases toInt rangePart <;> rfl
    | some parts =>
      obtain ⟨startPart, endPart⟩ := parts
      dsimp only
      cases toInt startPart with
      | error message => rfl
      | ok start => cases toInt endPart <;> rfl

theorem parseCronPart_plain {part : List Char} (plain : '/' ∉ part) :
    parseCronPart part minimum maximum =
      readSpan part minimum maximum >>= fun (start, stop) =>
        progression minimum maximum start stop 1 := by
  rw [parseCronPart, splitAtFirst_eq_none.mpr plain, bind_readSpan]
  rfl

theorem step_of_parsed {rangePart stepPart : List Char} (plain : '/' ∉ rangePart)
    {values : List Int}
    (parsed : parseCronPart (rangePart ++ '/' :: stepPart) minimum maximum = .ok values) :
    ∃ step, toInt stepPart = .ok step ∧ 1 ≤ step := by
  rw [parseCronPart, splitAtFirst_append plain] at parsed
  dsimp only at parsed
  cases reads : toInt stepPart with
  | error message =>
    rw [reads] at parsed
    cases parsed
  | ok step =>
    refine ⟨step, rfl, Int.not_lt.mp fun small => ?_⟩
    rw [reads] at parsed
    simp only [bind, Except.bind, small, if_true] at parsed
    cases parsed

theorem parseCronPart_stepped {rangePart stepPart : List Char} (plain : '/' ∉ rangePart)
    {step : Int} (reads : toInt stepPart = .ok step) (large : 1 ≤ step) :
    parseCronPart (rangePart ++ '/' :: stepPart) minimum maximum =
      readSpan rangePart minimum maximum >>= fun (start, stop) =>
        progression minimum maximum start stop step := by
  rw [parseCronPart, splitAtFirst_append plain, bind_readSpan]
  dsimp only
  rw [reads]
  simp only [bind, Except.bind, Int.not_lt.mpr large, if_false]
  rfl

theorem readSpan_written {span : Span} {text : List Char} (written : span.WrittenAs NoHyphen text) :
    readSpan text minimum maximum = .ok (span.first minimum, span.last maximum) := by
  cases written with
  | star => rfl
  | one plain reads =>
    have not_star : text ≠ ['*'] := fun same => by
      rw [same] at reads
      cases reads
    rw [readSpan, if_neg not_star, splitAtFirst_eq_none.mpr plain]
    dsimp only
    rw [reads]
    rfl
  | @range start stop _ _ plain reads_first reads_last =>
    have not_star : start ++ '-' :: stop ≠ ['*'] := fun same => by
      have among : '-' ∈ ['*'] := same ▸ List.mem_append_right start List.mem_cons_self
      simp at among
    rw [readSpan, if_neg not_star, splitAtFirst_append plain]
    dsimp only
    rw [reads_first, reads_last]
    rfl

theorem written_of_readSpan {text : List Char} {start stop : Int}
    (reads : readSpan text minimum maximum = .ok (start, stop)) :
    ∃ span : Span, span.WrittenAs NoHyphen text ∧ span.first minimum = start ∧
      span.last maximum = stop := by
  unfold readSpan at reads
  split at reads
  · next star =>
    cases reads
    exact ⟨.star, star ▸ .star, rfl, rfl⟩
  · split at reads
    · next startPart endPart found =>
      obtain ⟨rfl, plain⟩ := of_splitAtFirst found
      obtain ⟨a, first, reads⟩ := Json.except_bind_ok.mp reads
      obtain ⟨b, last, reads⟩ := Json.except_bind_ok.mp reads
      cases reads
      exact ⟨.range start stop, .range plain first last, rfl, rfl⟩
    · next missing =>
      obtain ⟨a, number, reads⟩ := Json.except_bind_ok.mp reads
      cases reads
      exact ⟨.one start, .one (splitAtFirst_eq_none.mp missing) number, rfl, rfl⟩

theorem mem_range {start stop step v : Int} (large : 1 ≤ step) :
    v ∈ ((List.range ((stop - start) / step + 1).toNat).map fun i => start + i * step) ↔
      ∃ k : Nat, v = start + k * step ∧ v ≤ stop := by
  have steps : ∀ k : Nat, (k : Int) < (stop - start) / step + 1 ↔ start + k * step ≤ stop := by
    intro k
    rw [Int.lt_add_one_iff, Int.le_ediv_iff_mul_le (by omega)]
    omega
  have listed : v ∈ ((List.range ((stop - start) / step + 1).toNat).map fun i => start + i * step) ↔
      ∃ k : Nat, (k : Int) < (stop - start) / step + 1 ∧ start + k * step = v := by simp
  rw [listed]
  constructor
  · rintro ⟨k, inside, rfl⟩
    exact ⟨k, rfl, (steps k).mp inside⟩
  · rintro ⟨k, rfl, below⟩
    exact ⟨k, (steps k).mpr below, rfl⟩

theorem progression_within {item : Item} (within : item.Within minimum maximum) : ∃ values,
    progression minimum maximum (item.span.first minimum) (item.span.last maximum) item.step =
      .ok values ∧ ∀ v, v ∈ values ↔ v ∈ item.values minimum maximum := by
  obtain ⟨large, first, last, ordered⟩ := within
  refine ⟨_, if_neg ?_, fun v => mem_range large⟩
  omega

theorem within_of_progression (item : Item) {values : List Int} (large : 1 ≤ item.step)
    (made : progression minimum maximum (item.span.first minimum) (item.span.last maximum)
      item.step = .ok values) :
    item.Within minimum maximum ∧ ∀ v, v ∈ values ↔ v ∈ item.values minimum maximum := by
  unfold progression at made
  split at made
  · cases made
  · next inside =>
    cases made
    exact ⟨⟨large, by omega, by omega, by omega⟩, fun v => mem_range large⟩

theorem parseCronPart_within {item : Item} {part : List Char}
    (written : item.WrittenAs NoHyphen part) (within : item.Within minimum maximum) : ∃ values,
      parseCronPart part minimum maximum = .ok values ∧
        ∀ v, v ∈ values ↔ v ∈ item.values minimum maximum := by
  obtain ⟨values, made, listed⟩ := progression_within within
  refine ⟨values, ?_, listed⟩
  cases written with
  | plain span =>
    rw [parseCronPart_plain (span.no_separator rfl (by decide)), readSpan_written span]
    exact made
  | stepped span reads =>
    rw [parseCronPart_stepped (span.no_separator rfl (by decide)) reads within.step,
      readSpan_written span]
    exact made

theorem written_of_parseCronPart {part : List Char} {values : List Int}
    (parsed : parseCronPart part minimum maximum = .ok values) :
    ∃ item : Item, item.WrittenAs NoHyphen part ∧ item.Within minimum maximum ∧
      ∀ v, v ∈ values ↔ v ∈ item.values minimum maximum := by
  by_cases slash : '/' ∈ part
  · obtain ⟨rangePart, stepPart, rfl, plain⟩ := List.eq_append_cons_of_mem slash
    obtain ⟨step, reads, large⟩ := step_of_parsed plain parsed
    rw [parseCronPart_stepped plain reads large] at parsed
    obtain ⟨⟨start, stop⟩, spans, made⟩ := Json.except_bind_ok.mp parsed
    obtain ⟨span, written, rfl, rfl⟩ := written_of_readSpan spans
    exact ⟨⟨span, step⟩, .stepped written reads, within_of_progression ⟨span, step⟩ large made⟩
  · rw [parseCronPart_plain slash] at parsed
    obtain ⟨⟨start, stop⟩, spans, made⟩ := Json.except_bind_ok.mp parsed
    obtain ⟨span, written, rfl, rfl⟩ := written_of_readSpan spans
    exact ⟨⟨span, 1⟩, .plain written, within_of_progression ⟨span, 1⟩ (le_refl 1) made⟩

end Parts

section Fields

variable {minimum maximum : Int}

theorem parseParts_within {items : List (Item × List Char)}
    (written : ∀ entry ∈ items,
      entry.1.WrittenAs NoHyphen entry.2 ∧ entry.1.Within minimum maximum) :
    ∃ values, parseParts minimum maximum (items.map Prod.snd) = .ok values ∧
      ∀ v, v ∈ values ↔ ∃ entry ∈ items, v ∈ entry.1.values minimum maximum := by
  induction items with
  | nil => exact ⟨[], rfl, by simp⟩
  | cons entry items ih =>
    obtain ⟨⟨first, within⟩, rest⟩ := List.forall_mem_cons.mp written
    obtain ⟨values, parsed, listed⟩ := parseCronPart_within first within
    obtain ⟨others, parsed_rest, listed_rest⟩ := ih rest
    refine ⟨values ++ others, ?_, fun v => ?_⟩
    · rw [List.map_cons, parseParts, parsed, parsed_rest]
      rfl
    · rw [List.mem_append, listed, listed_rest, List.exists_mem_cons_iff]

theorem written_of_parseParts {parts : List (List Char)} {values : List Int}
    (parsed : parseParts minimum maximum parts = .ok values) :
    ∃ items : List (Item × List Char), items.map Prod.snd = parts ∧
      (∀ entry ∈ items, entry.1.WrittenAs NoHyphen entry.2 ∧ entry.1.Within minimum maximum) ∧
      ∀ v, v ∈ values ↔ ∃ entry ∈ items, v ∈ entry.1.values minimum maximum := by
  induction parts generalizing values with
  | nil =>
    cases parsed
    exact ⟨[], rfl, by simp, by simp⟩
  | cons part parts ih =>
    obtain ⟨firsts, first, parsed⟩ := Json.except_bind_ok.mp parsed
    obtain ⟨others, rest, parsed⟩ := Json.except_bind_ok.mp parsed
    cases parsed
    obtain ⟨item, written, within, listed⟩ := written_of_parseCronPart first
    obtain ⟨items, rfl, written_rest, listed_rest⟩ := ih rest
    refine ⟨(item, part) :: items, rfl, List.forall_mem_cons.mpr ⟨⟨written, within⟩, written_rest⟩,
      fun v => ?_⟩
    rw [List.mem_append, listed, listed_rest, List.exists_mem_cons_iff]

theorem item_of_star {leads : List Char → Prop} {item : Item} {text : List Char}
    (written : item.WrittenAs leads text) (star : text = ['*']) : item = ⟨.star, 1⟩ := by
  have no_number : ∀ {n : Int}, toInt ['*'] ≠ .ok n := nofun
  have one_char : ∀ {c : Char} {before after : List Char},
      before ++ c :: after = ['*'] → c = '*' := by
    intro c before after same
    have among : c ∈ ['*'] := same ▸ List.mem_append_right before List.mem_cons_self
    exact List.mem_singleton.mp among
  cases written with
  | plain span =>
    cases span with
    | star => rfl
    | one _ reads => exact absurd (star ▸ reads) no_number
    | range _ _ _ => exact absurd (one_char star) (by decide)
  | stepped _ _ => exact absurd (one_char star) (by decide)

theorem values_star : Item.values ⟨.star, 1⟩ minimum maximum = Set.Icc minimum maximum := by
  ext v
  constructor
  · rintro ⟨k, rfl, below⟩
    exact ⟨by simp [Span.first], below⟩
  · rintro ⟨above, below⟩
    refine ⟨(v - minimum).toNat, ?_, below⟩
    simp only [Span.first]
    omega

theorem splitOn_items {leads : List Char → Prop} {items : List (Item × List Char)}
    (nonempty : items ≠ []) (written : ∀ entry ∈ items, entry.1.WrittenAs leads entry.2) :
    ([','].intercalate (items.map Prod.snd)).splitOn ',' = items.map Prod.snd := by
  refine List.splitOn_intercalate ',' ?_ (by simpa using nonempty)
  intro part among
  obtain ⟨entry, entry_in, rfl⟩ := List.mem_map.mp among
  exact (written entry entry_in).no_comma

theorem denotes_star {values : Set Int} (denotes : Denotes NoHyphen minimum maximum ['*'] values) :
    values = Set.Icc minimum maximum := by
  rcases denotes with ⟨-, same⟩ | ⟨items, nonempty, field, written, rfl⟩
  · exact same
  · have parts := splitOn_items nonempty fun entry among => (written entry among).1
    rw [← field, List.splitOn_eq_singleton (by decide)] at parts
    obtain ⟨⟨item, text⟩, rfl, same⟩ := List.map_eq_singleton_iff.mp parts.symm
    have item_eq := item_of_star (written _ List.mem_cons_self).1 same
    simp only [List.mem_singleton, Set.iUnion_iUnion_eq_left]
    dsimp only at item_eq
    rw [item_eq, values_star]

theorem parseCronField_star (minimum maximum : Int) : ∃ found,
    parseCronField ['*'] minimum maximum = .ok (found, false) ∧
      {v | v ∈ found} = Set.Icc minimum maximum := by
  refine ⟨_, rfl, ?_⟩
  ext v
  simp only [Set.mem_ofPred_eq, Set.mem_Icc]
  have listed : v ∈ ((List.range (maximum - minimum + 1).toNat).map fun i => minimum + i) ↔
      ∃ k : Nat, (k : Int) < maximum - minimum + 1 ∧ minimum + k = v := by simp
  rw [listed]
  constructor
  · rintro ⟨k, inside, rfl⟩
    omega
  · rintro ⟨above, below⟩
    exact ⟨(v - minimum).toNat, by omega, by omega⟩

theorem parseCronField_list {field : List Char} (listed : field ≠ ['*']) :
    parseCronField field minimum maximum =
      (parseParts minimum maximum (splitOn ',' field)).map fun values => (values, true) := by
  rw [parseCronField, if_neg listed]
  cases parseParts minimum maximum (splitOn ',' field) <;> rfl

theorem parseCronField_iff {field : List Char} {values : Set Int} :
    (∃ found restricted, parseCronField field minimum maximum = .ok (found, restricted) ∧
      {v | v ∈ found} = values) ↔ Denotes NoHyphen minimum maximum field values := by
  by_cases star : field = ['*']
  · obtain ⟨found, parsed, same⟩ := parseCronField_star minimum maximum
    subst star
    constructor
    · rintro ⟨found', restricted, parsed', rfl⟩
      rw [parsed] at parsed'
      cases parsed'
      exact .inl ⟨rfl, same⟩
    · intro denotes
      exact ⟨found, false, parsed, same.trans (denotes_star denotes).symm⟩
  · rw [parseCronField_list star, splitOn_eq]
    constructor
    · rintro ⟨found, restricted, parsed, rfl⟩
      obtain ⟨values, parsed_parts, same⟩ := Json.except_map_ok.mp parsed
      cases same
      obtain ⟨items, parts, written, listed⟩ := written_of_parseParts parsed_parts
      refine .inr ⟨items, ?_, ?_, written, ?_⟩
      · rintro rfl
        exact List.splitOn_ne_nil ',' field parts.symm
      · rw [parts, List.intercalate_splitOn]
      · ext v
        simp [listed]
    · rintro (⟨same, -⟩ | ⟨items, nonempty, rfl, written, rfl⟩)
      · exact absurd same star
      · obtain ⟨found, parsed, listed⟩ := parseParts_within written
        rw [splitOn_items nonempty fun entry among => (written entry among).1, parsed]
        refine ⟨found, true, rfl, ?_⟩
        ext v
        simp [listed]

theorem parse_iff {expression : String} {minutes hours daysOfMonth months daysOfWeek : Set Int} :
    (∃ cron, CronSchedule.parse expression = .ok cron ∧ {v | v ∈ cron.minutes} = minutes ∧
      {v | v ∈ cron.hours} = hours ∧ {v | v ∈ cron.daysOfMonth} = daysOfMonth ∧
      {v | v ∈ cron.months} = months ∧ {v | v ∈ cron.daysOfWeek} = daysOfWeek) ↔
      FieldsDenote NoHyphen expression minutes hours daysOfMonth months daysOfWeek := by
  unfold CronSchedule.parse FieldsDenote
  simp only [← parseCronField_iff]
  split
  · next minuteField hourField dayField monthField weekdayField fields =>
    constructor
    · rintro ⟨cron, parsed, rfl, rfl, rfl, rfl, rfl⟩
      obtain ⟨⟨days, daysRestricted⟩, day_parsed, parsed⟩ := Json.except_bind_ok.mp parsed
      obtain ⟨⟨weekdays, weekdaysRestricted⟩, weekday_parsed, parsed⟩ :=
        Json.except_bind_ok.mp parsed
      obtain ⟨⟨minutes, _⟩, minute_parsed, parsed⟩ := Json.except_bind_ok.mp parsed
      obtain ⟨⟨hours, _⟩, hour_parsed, parsed⟩ := Json.except_bind_ok.mp parsed
      obtain ⟨⟨months, _⟩, month_parsed, parsed⟩ := Json.except_bind_ok.mp parsed
      cases parsed
      refine ⟨minuteField, hourField, dayField, monthField, weekdayField, {v | v ∈ weekdays},
        fields,
        ⟨_, _, minute_parsed, rfl⟩, ⟨_, _, hour_parsed, rfl⟩, ⟨_, _, day_parsed, rfl⟩,
        ⟨_, _, month_parsed, rfl⟩, ⟨_, _, weekday_parsed, rfl⟩, ?_⟩
      ext v
      simp
    · rintro ⟨_, _, _, _, _, _, same, ⟨minutes, _, minute_parsed, rfl⟩,
        ⟨hours, _, hour_parsed, rfl⟩, ⟨days, _, day_parsed, rfl⟩, ⟨months, _, month_parsed, rfl⟩,
        ⟨weekdays, _, weekday_parsed, rfl⟩, rfl⟩
      rw [fields] at same
      cases same
      rw [day_parsed, weekday_parsed, minute_parsed, hour_parsed, month_parsed]
      refine ⟨_, rfl, rfl, rfl, rfl, rfl, ?_⟩
      ext v
      simp
  · next other =>
    constructor
    · rintro ⟨cron, parsed, -⟩
      cases parsed
    · rintro ⟨minuteField, hourField, dayField, monthField, weekdayField, _, fields, -⟩
      exact absurd fields (other minuteField hourField dayField monthField weekdayField)

end Fields

/-- What a field and an expression denote, where no number before a hyphen or alone has a minus,
is what the parser returns; it raises at all others. -/
theorem cron_fields_parsed :
    (∀ (field : List Char) (minimum maximum : Int) (values : Set Int),
      (∃ found restricted, parseCronField field minimum maximum = .ok (found, restricted) ∧
        {v | v ∈ found} = values) ↔ Denotes NoHyphen minimum maximum field values) ∧
    ∀ (expression : String) (minutes hours daysOfMonth months daysOfWeek : Set Int),
      (∃ cron, CronSchedule.parse expression = .ok cron ∧ {v | v ∈ cron.minutes} = minutes ∧
        {v | v ∈ cron.hours} = hours ∧ {v | v ∈ cron.daysOfMonth} = daysOfMonth ∧
        {v | v ∈ cron.months} = months ∧ {v | v ∈ cron.daysOfWeek} = daysOfWeek) ↔
        FieldsDenote NoHyphen expression minutes hours daysOfMonth months daysOfWeek :=
  ⟨fun _ _ _ _ => parseCronField_iff, fun _ _ _ _ _ _ => parse_iff⟩

example : parseCronField "1-5/2,7".toList 0 7 = .ok ([1, 3, 5, 7], true) := by decide

/-- `int` reads `-0` as a number within bounds, but the parser splits it at the hyphen. -/
theorem minus_zero_refused : ¬ ∀ (field : List Char) (minimum maximum : Int) (values : Set Int),
    (∃ found restricted, parseCronField field minimum maximum = .ok (found, restricted) ∧
      {v | v ∈ found} = values) ↔ Denotes (fun _ => True) minimum maximum field values := by
  intro exact_grammar
  have written : Item.WrittenAs (fun _ => True) ⟨.one 0, 1⟩ ['-', '0'] :=
    .plain (.one trivial (by decide))
  have denotes : Denotes (fun _ => True) 0 59 ['-', '0'] (Item.values ⟨.one 0, 1⟩ 0 59) := by
    refine .inr ⟨[(⟨.one 0, 1⟩, ['-', '0'])], by simp, rfl, ?_, by simp⟩
    simp only [List.mem_singleton, forall_eq]
    exact ⟨written, by decide, by decide, by decide, by decide⟩
  obtain ⟨found, restricted, parsed, -⟩ := (exact_grammar _ _ _ _).mpr denotes
  have refused : parseCronField ['-', '0'] 0 59 =
      .error "invalid literal for int() with base 10: ''" := by decide
  rw [refused] at parsed
  cases parsed

end Taroai.Triggers
