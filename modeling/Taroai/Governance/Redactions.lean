import Taroai.Governance.Guardrails
import Taroai.Lib.Erasure

/-! What redactions leave of the text they are applied to. The redactions are traced on the
characters with their places; where no term overlaps another, what is left are the characters that
no term covers, whatever the order. -/

namespace Taroai.Governance

open Erasure Substitute

section Traces

variable (texts : TextRules)

def GuardrailRedaction.alike (redaction : GuardrailRedaction) : Char → Char → Bool :=
  if redaction.caseSensitive then fun a b => decide (a = b) else texts.alike

/-- `_apply_redactions`, on characters with their places. -/
def traceRedactions : List GuardrailRedaction → List Cell → Except GuardrailError (List Cell)
  | [], left => .ok left
  | redaction :: rest, left => do
    let put ← texts.template redaction.replacement
    traceRedactions rest (trace (redaction.alike texts) redaction.text.toList put 0 left)

def original (text : String) : List Cell := cells 0 (text.toList.map fun c => ⟨c, none⟩)

def textOf (left : List Cell) : String := String.ofList (left.map Prod.fst)

variable {texts}

theorem shown_standing (chars : List Char) : shown (chars.map fun c => ⟨c, none⟩) = chars := by
  induction chars with
  | nil => rfl
  | cons c chars ih => exact congrArg (c :: ·) ih

theorem textOf_original (text : String) : textOf (original text) = text := by
  rw [textOf, original, map_cells, shown_standing, String.ofList_toList]

theorem applyRedactions_trace (texts : TextRules) (redactions : List GuardrailRedaction)
    (left : List Cell) :
    applyRedactions texts redactions (textOf left) =
      (traceRedactions texts redactions left).map textOf := by
  induction redactions generalizing left with
  | nil => rfl
  | cons redaction rest ih =>
    rw [applyRedactions, traceRedactions, TextRules.sub]
    cases texts.template redaction.replacement with
    | error error => rfl
    | ok put =>
      have some_text : redaction.text.toList ≠ [] :=
        fun empty => redaction.text_nonempty (String.toList_eq_nil_iff.mp empty)
      have replaced : String.ofList (substitute (redaction.alike texts) redaction.text.toList put
          (textOf left).toList) =
          textOf (trace (redaction.alike texts) redaction.text.toList put 0 left) := by
        rw [substitute, if_neg some_text, textOf, textOf, map_trace, String.toList_ofList]
      change applyRedactions texts rest (String.ofList (substitute (redaction.alike texts)
        redaction.text.toList put (textOf left).toList)) = _
      rw [replaced]
      exact ih _

end Traces

section Occurrences

variable (texts : TextRules) (redaction : GuardrailRedaction)

def GuardrailRedaction.foundIn (content : List Char) : Bool :=
  GuardrailCondition.containsAnyText texts
    { textContains := [redaction.text], caseSensitive := redaction.caseSensitive }
    (String.ofList content)

def stretch (text : List Char) (a b : Nat) : List Char := (text.take b).drop a

/-- An occurrence as the matcher recognises it: a stretch of the text in which it finds the term,
and in no shorter one within. -/
structure Recognised (text : List Char) (a b : Nat) : Prop where
  low : a ≤ b
  high : b ≤ text.length
  found : redaction.foundIn texts (stretch text a b) = true
  least : ∀ a' b', a ≤ a' → a' ≤ b' → b' ≤ b →
    redaction.foundIn texts (stretch text a' b') = true → a' = a ∧ b' = b

variable {texts} {redaction}

theorem stretch_eq (text : List Char) (a b : Nat) : stretch text a b = (text.drop a).take (b - a) :=
  List.drop_take ..

theorem stretch_within {text : List Char} {a b m n : Nat} (inside : a + n ≤ b) :
    stretch text (a + m) (a + n) = ((stretch text a b).take n).drop m := by
  have less : min n (b - a) = n := by omega
  have rest : a + n - (a + m) = n - m := by omega
  rw [stretch_eq, stretch_eq, List.take_take, less, List.drop_take, List.drop_drop, rest]

theorem matches_of_prefix {term text : List Char} (starts : term <+: text) :
    Matches (fun a b => decide (a = b)) term text := by
  induction term generalizing text with
  | nil => exact matches_nil text
  | cons t term ih =>
    cases text with
    | nil => cases List.prefix_nil.mp starts
    | cons c text =>
      obtain ⟨same, later⟩ := List.cons_prefix_cons.mp starts
      exact matches_cons_cons.mpr ⟨decide_eq_true same, ih later⟩

theorem Recognised.occursAt {text : List Char} {a b : Nat}
    (recognised : Recognised texts redaction text a b) (sensitive : redaction.caseSensitive = true) :
    OccursAt (redaction.alike texts) redaction.text.toList text a ∧
      b = a + redaction.text.toList.length := by
  have foundIn_iff : ∀ content, redaction.foundIn texts content = true ↔
      redaction.text.toList <:+: content := by
    intro content
    rw [GuardrailRedaction.foundIn, GuardrailCondition.containsAnyText, if_pos sensitive,
      List.any_cons, List.any_nil, Bool.or_false, includes_iff, String.toList_ofList]
  obtain ⟨front, back, parts⟩ := (foundIn_iff _).mp recognised.found
  have size : (stretch text a b).length = b - a := by
    have high := recognised.high
    rw [stretch_eq, List.length_take, List.length_drop]
    omega
  have sizes : front.length + redaction.text.toList.length + back.length = b - a := by
    rw [← size, ← parts, List.length_append, List.length_append]
  have low := recognised.low
  have inner : stretch text (a + front.length) (a + (front.length + redaction.text.toList.length)) =
      redaction.text.toList := by
    have cut : (front ++ redaction.text.toList ++ back).take
        (front.length + redaction.text.toList.length) = front ++ redaction.text.toList := by
      rw [← List.length_append]
      exact List.take_left
    have inside : a + (front.length + redaction.text.toList.length) ≤ b := by omega
    rw [stretch_within inside, ← parts, cut, List.drop_left]
  obtain ⟨first, last⟩ := recognised.least (a + front.length)
    (a + (front.length + redaction.text.toList.length)) (by omega) (by omega) (by omega)
    ((foundIn_iff _).mpr (by rw [inner]))
  have none_before : front.length = 0 := by omega
  refine ⟨?_, by omega⟩
  have alike : redaction.alike texts = fun a b => decide (a = b) := if_pos sensitive
  rw [OccursAt, alike]
  refine matches_of_prefix ?_
  rw [stretch_eq, none_before, Nat.add_zero] at inner
  rw [← inner]
  exact List.take_prefix _ _

end Occurrences

section Removal

variable (texts : TextRules) (place : GuardrailRedaction → List Char)

/-- A place within an occurrence of the term, as the matcher recognises occurrences. -/
def Covered (redactions : List GuardrailRedaction) (text : List Char) (i : Nat) : Prop :=
  ∃ redaction ∈ redactions, ∃ a b, Recognised texts redaction text a b ∧ a ≤ i ∧ i < b

/-- A place within an occurrence of the term, as the pattern finds it in the original text. -/
def Struck (redactions : List GuardrailRedaction) (text : List Char) (i : Nat) : Prop :=
  ∃ redaction ∈ redactions, Within (redaction.alike texts) redaction.text.toList text i

/-- The redactions do not get in each other's way: the replacement is a literal text, what the
matcher recognises the pattern finds, no term can overlap an earlier placeholder, and an occurrence
that meets another one either lies within those of earlier terms or is of a term of its own. -/
structure Clean (redactions : List GuardrailRedaction) (text : List Char) : Prop where
  literal : ∀ redaction ∈ redactions,
    texts.template redaction.replacement = .ok (fun _ => place redaction) ∧ place redaction ≠ []
  patterned : ∀ redaction ∈ redactions, ∀ a b, Recognised texts redaction text a b →
    OccursAt (redaction.alike texts) redaction.text.toList text a ∧
      b = a + redaction.text.toList.length
  apart : redactions.Pairwise fun earlier redaction =>
    Apart (redaction.alike texts) redaction.text.toList (place earlier)
  whole : ∀ before redaction after, redactions = before ++ redaction :: after →
    ∀ a, OccursAt (redaction.alike texts) redaction.text.toList text a →
      (∀ i, a ≤ i → i < a + redaction.text.toList.length → Struck texts before text i) ∨
      ∀ i, a ≤ i → i < a + redaction.text.toList.length → ¬Struck texts before text i
  disjoint : ∀ before redaction after, redactions = before ++ redaction :: after →
    ∀ a b, OccursAt (redaction.alike texts) redaction.text.toList text a →
      OccursAt (redaction.alike texts) redaction.text.toList text b → a < b →
      b < a + redaction.text.toList.length → Struck texts before text b

structure Left (before : List GuardrailRedaction) (text : List Char) (slots : List Slot) : Prop where
  chars : slots.map Slot.char = text
  joined : Joined false slots
  inserted : ∀ slot ∈ slots, ∀ placeholder, slot.gone = some placeholder →
    placeholder = [] ∨ ∃ earlier ∈ before, placeholder = place earlier
  gone : ∀ i, GoneAt slots i ↔ Struck texts before text i

variable {texts} {place}

theorem struck_append_singleton {before : List GuardrailRedaction} {redaction : GuardrailRedaction}
    {text : List Char} {i : Nat} : Struck texts (before ++ [redaction]) text i ↔
      Struck texts before text i ∨
        Within (redaction.alike texts) redaction.text.toList text i := by
  unfold Struck
  simp only [List.mem_append, List.mem_singleton, or_and_right, exists_or, exists_eq_left]

theorem traceRedactions_left {redactions rest before : List GuardrailRedaction} {text : List Char}
    (clean : Clean texts place redactions text) (parts : redactions = before ++ rest)
    {slots : List Slot} (left : Left texts place before text slots) :
    ∃ slots', traceRedactions texts rest (cells 0 slots) = .ok (cells 0 slots') ∧
      Left texts place redactions text slots' := by
  induction rest generalizing before slots with
  | nil =>
    rw [List.append_nil] at parts
    exact ⟨slots, rfl, parts ▸ left⟩
  | cons redaction rest ih =>
    have member : redaction ∈ redactions := by
      rw [parts]
      exact List.mem_append_right _ List.mem_cons_self
    obtain ⟨template, some_place⟩ := clean.literal redaction member
    have some_text : redaction.text.toList ≠ [] :=
      fun empty => redaction.text_nonempty (String.toList_eq_nil_iff.mp empty)
    have clear : Clear (redaction.alike texts) redaction.text.toList slots := by
      intro slot among placeholder gone
      rcases left.inserted slot among placeholder gone with empty | ⟨earlier, listed, rfl⟩
      · exact Or.inl empty
      · have pairs := clean.apart
        rw [parts, List.pairwise_append] at pairs
        exact Or.inr (pairs.2.2 earlier listed redaction List.mem_cons_self)
    have tidy : Tidy (redaction.alike texts) redaction.text.toList slots := by
      constructor
      · intro a occurs
        rw [left.chars] at occurs
        simp only [left.gone]
        exact clean.whole before redaction rest parts a occurs
      · intro a b occurs occurs' less within
        rw [left.chars] at occurs occurs'
        exact (left.gone b).mpr
          (clean.disjoint before redaction rest parts a b occurs occurs' less within)
    have passed : Left texts place (before ++ [redaction]) text
        (pass (redaction.alike texts) redaction.text.toList (place redaction) 0 slots) := by
      constructor
      · rw [map_char_pass, left.chars]
      · exact left.joined.pass some_text some_place clear (fun same => same)
          (fun other => absurd rfl other) (fun _ none => nomatch none)
      · intro slot among placeholder gone
        rcases inserted_of_mem_pass among gone with empty | here | ⟨old, listed, gone⟩
        · exact Or.inl empty
        · exact Or.inr ⟨redaction, List.mem_append_right _ List.mem_cons_self, here⟩
        · rcases left.inserted old listed placeholder gone with empty | ⟨earlier, listed, same⟩
          · exact Or.inl empty
          · exact Or.inr ⟨earlier, List.mem_append_left _ listed, same⟩
      · intro i
        rw [goneAt_pass some_text left.joined clear (Nat.zero_le _) (fun _ none => nomatch none)
          tidy (fun a less => absurd less (Nat.not_lt_zero a)), left.chars, left.gone,
          struck_append_singleton]
        have negative := Nat.not_lt_zero i
        tauto
    have onward : redactions = (before ++ [redaction]) ++ rest := by
      rw [parts, List.append_assoc]
      rfl
    obtain ⟨slots', traced, last⟩ := ih onward passed
    refine ⟨slots', ?_, last⟩
    rw [traceRedactions, template]
    change traceRedactions texts rest (trace _ _ _ 0 (cells 0 slots)) = _
    rw [trace_cells some_text left.joined clear (Nat.zero_le _) (fun _ none => nomatch none)]
    exact traced

/-- No character that a term covers is left by either of two lists of redactions, and both leave the
same characters. -/
def Removes (texts : TextRules) (redactions others : List GuardrailRedaction) (text : String) : Prop :=
  ∃ left left', traceRedactions texts redactions (original text) = .ok left ∧
    traceRedactions texts others (original text) = .ok left' ∧
    applyRedactions texts redactions text = .ok (textOf left) ∧
    applyRedactions texts others text = .ok (textOf left') ∧
    (∀ i, Covered texts redactions text.toList i → some i ∉ left.map Prod.snd) ∧
    (∀ i, Covered texts others text.toList i → some i ∉ left'.map Prod.snd) ∧
    left.filter (fun cell => cell.2.isSome) = left'.filter fun cell => cell.2.isSome

theorem traceRedactions_original {redactions : List GuardrailRedaction} {text : String}
    (clean : Clean texts place redactions text.toList) :
    ∃ slots, traceRedactions texts redactions (original text) = .ok (cells 0 slots) ∧
      Left texts place redactions text.toList slots := by
  refine traceRedactions_left clean (List.nil_append redactions).symm ?_
  have standing : ∀ slot ∈ text.toList.map fun c => (⟨c, none⟩ : Slot), slot.gone = none := by
    intro slot member
    obtain ⟨c, -, rfl⟩ := List.mem_map.mp member
    rfl
  have joined : ∀ chars : List Char, Joined false (chars.map fun c => ⟨c, none⟩) := by
    intro chars
    induction chars with
    | nil => trivial
    | cons c chars ih => exact ih
  constructor
  · rw [List.map_map]
    exact List.map_id _
  · exact joined _
  · intro slot member placeholder gone
    rw [standing slot member] at gone
    cases gone
  · refine fun i => iff_of_false ?_ ?_
    · rintro ⟨slot, at_i, gone⟩
      exact gone (standing slot (List.mem_of_getElem? at_i))
    · rintro ⟨_, none, -⟩
      cases none

theorem Clean.struck {redactions : List GuardrailRedaction} {text : List Char}
    (clean : Clean texts place redactions text) {i : Nat} (covered : Covered texts redactions text i) :
    Struck texts redactions text i := by
  obtain ⟨redaction, member, a, b, recognised, low, high⟩ := covered
  obtain ⟨occurs, last⟩ := clean.patterned redaction member a b recognised
  exact ⟨redaction, member, a, occurs, low, by omega⟩

theorem Left.removed {redactions : List GuardrailRedaction} {text : List Char} {slots : List Slot}
    (left : Left texts place redactions text slots) {i : Nat}
    (struck : Struck texts redactions text i) : some i ∉ (cells 0 slots).map Prod.snd := by
  intro member
  obtain ⟨j, same, stands⟩ := mem_cells member
  rw [Nat.zero_add] at same
  exact stands ((left.gone j).mpr (same ▸ struck))

theorem clean_of_separate {redactions : List GuardrailRedaction} {text : List Char}
    (literal : ∀ redaction ∈ redactions,
      texts.template redaction.replacement = .ok (fun _ => place redaction) ∧ place redaction ≠ [])
    (sensitive : ∀ redaction ∈ redactions, redaction.caseSensitive = true)
    (apart : ∀ earlier ∈ redactions, ∀ redaction ∈ redactions,
      Apart (redaction.alike texts) redaction.text.toList (place earlier))
    (separate : ∀ r ∈ redactions, ∀ r' ∈ redactions, ∀ a b,
      OccursAt (r.alike texts) r.text.toList text a → OccursAt (r'.alike texts) r'.text.toList text b →
      (r = r' ∧ a = b) ∨ a + r.text.toList.length ≤ b ∨ b + r'.text.toList.length ≤ a) :
    Clean texts place redactions text where
  literal := literal
  patterned redaction member a b recognised := recognised.occursAt (sensitive redaction member)
  apart := List.pairwise_of_forall_mem_list fun earlier listed redaction member =>
    apart earlier listed redaction member
  whole before redaction after parts a occurs := by
    have member : redaction ∈ redactions := by simp [parts]
    by_cases again : redaction ∈ before
    · exact Or.inl fun i low high => ⟨redaction, again, a, occurs, low, high⟩
    · refine Or.inr fun i low high struck => ?_
      obtain ⟨earlier, listed, b, occurs', low', high'⟩ := struck
      have among : earlier ∈ redactions := by simp [parts, listed]
      rcases separate redaction member earlier among a b occurs occurs' with ⟨same, -⟩ | less | less
      · exact again (same ▸ listed)
      · omega
      · omega
  disjoint before redaction after parts a b occurs occurs' less within := by
    have member : redaction ∈ redactions := by simp [parts]
    rcases separate redaction member redaction member a b occurs occurs' with ⟨-, same⟩ | far | far
    · omega
    · omega
    · omega

end Removal

section Examples

def literalRules : TextRules where
  lower := id
  alike a b := decide (a = b)
  template replacement := .ok fun _ => replacement.toList

def term (text : String) (nonempty : text ≠ "" := by decide) : GuardrailRedaction where
  text := text
  replacement := "*"
  caseSensitive := true
  text_nonempty := nonempty

end Examples

end Taroai.Governance
