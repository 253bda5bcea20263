import Taroai.Lib.Substitute

/-! What the replacement of literal terms, one after the other, leaves of a text. A cell is a
character with its place in the original text, where it is from there. A slot is a place of the
original text: its character stands or is gone, and where an occurrence was replaced the placeholder
stands before the rest of it. As long as no term meets a placeholder, what is found in the text as
it has become are occurrences in the original text. -/

namespace Taroai.Erasure

open Substitute

abbrev Cell := Char × Option Nat

section Cells

variable (alike : Char → Char → Bool) (term : List Char) (put : List Char → List Char)

/-- `scan`, on cells. -/
def trace : Nat → List Cell → List Cell
  | _, [] => []
  | skip + 1, _ :: cells => trace skip cells
  | 0, cell :: cells =>
    match matched alike term (cell.1 :: cells.map Prod.fst) with
    | some found => (put found).map (fun c => (c, none)) ++ trace (term.length - 1) cells
    | none => cell :: trace 0 cells

theorem map_trace (skip : Nat) (cells : List Cell) :
    (trace alike term put skip cells).map Prod.fst = scan alike term put skip (cells.map Prod.fst) := by
  induction cells generalizing skip with
  | nil => cases skip <;> rfl
  | cons cell cells ih =>
    cases skip with
    | succ skip => exact ih skip
    | zero =>
      rw [trace, List.map_cons, scan]
      cases matched alike term (cell.1 :: cells.map Prod.fst) with
      | none => exact congrArg (cell.1 :: ·) (ih 0)
      | some found =>
        dsimp only
        rw [List.map_append, ih, List.map_map]
        congr 1
        exact List.map_id _

def Matches (term text : List Char) : Prop := (matched alike term text).isSome = true

instance (term text : List Char) : Decidable (Matches alike term text) :=
  inferInstanceAs (Decidable (_ = true))

def agree : List Char → List Char → Bool
  | t :: term, c :: text => alike t c && agree term text
  | _, _ => true

def Apart (term placeholder : List Char) : Prop :=
  placeholder ≠ [] ∧
  (∀ ending ∈ placeholder.tails, ending ≠ [] → agree alike term ending = false) ∧
  ∀ ending ∈ term.tails, ending ≠ [] → agree alike ending placeholder = false

instance (term placeholder : List Char) : Decidable (Apart alike term placeholder) :=
  inferInstanceAs (Decidable (_ ∧ _))

variable {alike} {term}

@[simp] theorem matches_nil (text : List Char) : Matches alike [] text := rfl

@[simp] theorem not_matches_cons_nil (t : Char) (term : List Char) :
    ¬Matches alike (t :: term) [] := Bool.false_ne_true

@[simp] theorem matches_cons_cons {t c : Char} {term text : List Char} :
    Matches alike (t :: term) (c :: text) ↔ alike t c = true ∧ Matches alike term text := by
  unfold Matches
  rw [matched]
  split
  · rename_i same
    simp [same]
  · rename_i other
    simp [other]

theorem agree_of_matches {term front back : List Char}
    (found : Matches alike term (front ++ back)) : agree alike term front = true := by
  induction front generalizing term with
  | nil => cases term <;> rfl
  | cons c front ih =>
    cases term with
    | nil => rfl
    | cons t term =>
      rw [List.cons_append, matches_cons_cons] at found
      rw [agree, found.1, ih found.2]
      rfl

theorem Matches.length_le {term text : List Char} (found : Matches alike term text) :
    term.length ≤ text.length := by
  induction term generalizing text with
  | nil => exact Nat.zero_le _
  | cons t term ih =>
    cases text with
    | nil => exact absurd found (not_matches_cons_nil t term)
    | cons c text => exact Nat.succ_le_succ (ih (matches_cons_cons.mp found).2)

theorem trace_placeholder {placeholder : List Char} (apart : Apart alike term placeholder)
    {ending : List Char} (suffix : ending <:+ placeholder) (cells : List Cell) :
    trace alike term put 0 (ending.map (fun c => (c, none)) ++ cells) =
      ending.map (fun c => (c, none)) ++ trace alike term put 0 cells := by
  induction ending with
  | nil => rfl
  | cons c ending ih =>
    have unmatched : ¬Matches alike term (c :: (ending ++ cells.map Prod.fst)) := by
      intro found
      have alikes : agree alike term (c :: ending) = true := agree_of_matches found
      rw [apart.2.1 _ ((List.mem_tails _ _).mpr suffix) (List.cons_ne_nil _ _)] at alikes
      cases alikes
    have shown : ((ending.map fun c => ((c, none) : Cell)) ++ cells).map Prod.fst =
        ending ++ cells.map Prod.fst := by
      rw [List.map_append, List.map_map]
      congr 1
      exact List.map_id _
    unfold Matches at unmatched
    rw [List.map_cons, List.cons_append, trace]
    dsimp only
    rw [shown]
    cases none_found : matched alike term (c :: (ending ++ cells.map Prod.fst)) with
    | some found => exact absurd (by rw [none_found]; rfl) unmatched
    | none =>
      dsimp only
      rw [ih ((List.suffix_cons c ending).trans suffix)]
      rfl

end Cells

section Slots

/-- A place of the original text; where its character is gone, with what stands there instead. -/
structure Slot where
  char : Char
  gone : Option (List Char)

def cells : Nat → List Slot → List Cell
  | _, [] => []
  | k, ⟨c, none⟩ :: rest => (c, some k) :: cells (k + 1) rest
  | k, ⟨_, some placeholder⟩ :: rest =>
    placeholder.map (fun c => (c, none)) ++ cells (k + 1) rest

def shown (slots : List Slot) : List Char := slots.flatMap fun slot => slot.gone.getD [slot.char]

theorem map_cells (k : Nat) (slots : List Slot) : (cells k slots).map Prod.fst = shown slots := by
  induction slots generalizing k with
  | nil => rfl
  | cons slot rest ih =>
    obtain ⟨c, gone⟩ := slot
    cases gone with
    | none =>
      rw [cells, List.map_cons, ih]
      rfl
    | some placeholder =>
      rw [cells, List.map_append, ih, List.map_map]
      change List.map id placeholder ++ shown rest = _
      rw [List.map_id]
      rfl

variable (alike : Char → Char → Bool) (term placeholder : List Char)

/-- The slots once the term was replaced; the number counts those that belong to a match. -/
def pass : Nat → List Slot → List Slot
  | _, [] => []
  | skip + 1, slot :: rest => ⟨slot.char, some []⟩ :: pass skip rest
  | 0, slot :: rest =>
    if slot.gone = none ∧ Matches alike term (shown (slot :: rest)) then
      ⟨slot.char, some placeholder⟩ :: pass (term.length - 1) rest
    else slot :: pass 0 rest

def Joined : Bool → List Slot → Prop
  | _, [] => True
  | _, ⟨_, none⟩ :: rest => Joined false rest
  | behindGone, ⟨_, some inserted⟩ :: rest =>
    (inserted = [] → behindGone = true) ∧ Joined true rest

def Clear (slots : List Slot) : Prop :=
  ∀ slot ∈ slots, ∀ inserted, slot.gone = some inserted → inserted = [] ∨ Apart alike term inserted

variable {alike} {term} {placeholder}

theorem Clear.tail {slot : Slot} {rest : List Slot} (clear : Clear alike term (slot :: rest)) :
    Clear alike term rest :=
  fun other member => clear other (List.mem_cons_of_mem _ member)

theorem kept_of_matches {slots : List Slot} {ending : List Char} (suffix : ending <:+ term)
    (joined : Joined false slots) (clear : Clear alike term slots)
    (found : Matches alike ending (shown slots)) :
    ending.length ≤ slots.length ∧ (∀ slot ∈ slots.take ending.length, slot.gone = none) ∧
      Matches alike ending (slots.map Slot.char) := by
  induction slots generalizing ending with
  | nil =>
    cases ending with
    | nil => exact ⟨Nat.zero_le _, by simp, found⟩
    | cons t ending => exact absurd found (not_matches_cons_nil t ending)
  | cons slot rest ih =>
    cases ending with
    | nil => exact ⟨Nat.zero_le _, by simp, matches_nil _⟩
    | cons t ending =>
      obtain ⟨c, gone⟩ := slot
      cases gone with
      | none =>
        obtain ⟨same, later⟩ := matches_cons_cons.mp found
        obtain ⟨long, kept, matched⟩ := ih ((List.suffix_cons t ending).trans suffix) joined
          clear.tail later
        refine ⟨Nat.succ_le_succ long, ?_, matches_cons_cons.mpr ⟨same, matched⟩⟩
        rw [List.length_cons, List.take_succ_cons]
        exact List.forall_mem_cons.mpr ⟨rfl, kept⟩
      | some inserted =>
        have nonempty : inserted ≠ [] := fun empty => Bool.false_ne_true (joined.1 empty)
        have apart := (clear _ List.mem_cons_self inserted rfl).resolve_left nonempty
        have alikes : agree alike (t :: ending) inserted = true := agree_of_matches found
        rw [apart.2.2 _ ((List.mem_tails _ _).mpr suffix) (List.cons_ne_nil _ _)] at alikes
        cases alikes

theorem matches_of_kept {slots : List Slot} {ending : List Char}
    (kept : ∀ slot ∈ slots.take ending.length, slot.gone = none)
    (found : Matches alike ending (slots.map Slot.char)) : Matches alike ending (shown slots) := by
  induction slots generalizing ending with
  | nil => exact found
  | cons slot rest ih =>
    cases ending with
    | nil => exact matches_nil _
    | cons t ending =>
      rw [List.length_cons, List.take_succ_cons, List.forall_mem_cons] at kept
      obtain ⟨c, gone⟩ := slot
      obtain ⟨same, later⟩ := matches_cons_cons.mp found
      cases kept.1
      exact matches_cons_cons.mpr ⟨same, ih kept.2 later⟩

theorem standing_of_matches (nonempty : term ≠ []) {c : Char} {rest : List Slot}
    (joined : Joined false rest) (clear : Clear alike term (⟨c, none⟩ :: rest))
    (found : Matches alike term (shown (⟨c, none⟩ :: rest))) :
    term.length - 1 ≤ rest.length ∧ ∀ slot ∈ rest.take (term.length - 1), slot.gone = none := by
  have standing : Joined false (⟨c, none⟩ :: rest) := joined
  obtain ⟨within, kept, -⟩ := kept_of_matches (List.suffix_refl term) standing clear found
  have count : term.length - 1 + 1 = term.length :=
    Nat.sub_add_cancel (List.length_pos_iff.mpr nonempty)
  rw [← count, List.take_succ_cons, List.forall_mem_cons] at kept
  rw [← count] at within
  exact ⟨Nat.le_of_succ_le_succ within, kept.2⟩

theorem trace_cells (nonempty : term ≠ []) {skip k : Nat} {slots : List Slot} {behindGone : Bool}
    (joined : Joined behindGone slots) (clear : Clear alike term slots) (long : skip ≤ slots.length)
    (standing : ∀ slot ∈ slots.take skip, slot.gone = none) :
    trace alike term (fun _ => placeholder) skip (cells k slots) =
      cells k (pass alike term placeholder skip slots) := by
  induction slots generalizing skip k behindGone with
  | nil => cases skip <;> rfl
  | cons slot rest ih =>
    obtain ⟨c, gone⟩ := slot
    cases skip with
    | succ skip =>
      rw [List.take_succ_cons, List.forall_mem_cons] at standing
      cases standing.1
      exact ih joined clear.tail (Nat.le_of_succ_le_succ long) standing.2
    | zero =>
      cases gone with
      | some inserted =>
        have later : trace alike term (fun _ => placeholder) 0 (cells (k + 1) rest) =
            cells (k + 1) (pass alike term placeholder 0 rest) :=
          ih joined.2 clear.tail (Nat.zero_le _) (fun _ none => nomatch none)
        have unfound : pass alike term placeholder 0 (⟨c, some inserted⟩ :: rest) =
            ⟨c, some inserted⟩ :: pass alike term placeholder 0 rest :=
          if_neg fun both => nomatch both.1
        rw [unfound, cells, cells]
        by_cases empty : inserted = []
        · rw [empty]
          exact later
        · have apart := (clear _ List.mem_cons_self inserted rfl).resolve_left empty
          rw [trace_placeholder _ apart (List.suffix_refl _), later]
      | none =>
        rw [cells, trace, pass, map_cells]
        dsimp only
        by_cases found : Matches alike term (shown (⟨c, none⟩ :: rest))
        · have some_found := Option.isSome_iff_exists.mp found
          obtain ⟨text, here⟩ := some_found
          change matched alike term (c :: shown rest) = some text at here
          obtain ⟨within, kept⟩ := standing_of_matches nonempty joined clear found
          rw [here, if_pos ⟨rfl, found⟩]
          dsimp only
          rw [cells, ih joined clear.tail within kept]
        · have nothing : matched alike term (c :: shown rest) = none := by
            rw [← Option.not_isSome_iff_eq_none]
            exact found
          rw [nothing, if_neg fun both => found both.2]
          dsimp only
          rw [cells, ih joined clear.tail (Nat.zero_le _) (fun _ none => nomatch none)]

theorem map_char_pass (skip : Nat) (slots : List Slot) :
    (pass alike term placeholder skip slots).map Slot.char = slots.map Slot.char := by
  induction slots generalizing skip with
  | nil => cases skip <;> rfl
  | cons slot rest ih =>
    cases skip with
    | succ skip => exact congrArg (slot.char :: ·) (ih skip)
    | zero =>
      rw [pass]
      split
      · exact congrArg (slot.char :: ·) (ih _)
      · exact congrArg (slot.char :: ·) (ih 0)

theorem Joined.pass (nonempty : term ≠ []) (some_placeholder : placeholder ≠ []) {skip : Nat}
    {slots : List Slot} {before after : Bool} (joined : Joined before slots)
    (clear : Clear alike term slots) (weaker : before = true → after = true)
    (within : skip ≠ 0 → after = true) (standing : ∀ slot ∈ slots.take skip, slot.gone = none) :
    Joined after (pass alike term placeholder skip slots) := by
  induction slots generalizing skip before after with
  | nil => cases skip <;> trivial
  | cons slot rest ih =>
    obtain ⟨c, gone⟩ := slot
    cases skip with
    | succ skip =>
      rw [List.take_succ_cons, List.forall_mem_cons] at standing
      cases standing.1
      exact ⟨fun _ => within (Nat.succ_ne_zero skip),
        ih joined clear.tail (fun _ => rfl) (fun _ => rfl) standing.2⟩
    | zero =>
      cases gone with
      | some inserted =>
        have unfound : Erasure.pass alike term placeholder 0 (⟨c, some inserted⟩ :: rest) =
            ⟨c, some inserted⟩ :: Erasure.pass alike term placeholder 0 rest :=
          if_neg fun both => nomatch both.1
        rw [unfound]
        exact ⟨fun empty => weaker (joined.1 empty),
          ih joined.2 clear.tail (fun _ => rfl) (fun _ => rfl) (fun _ none => nomatch none)⟩
      | none =>
        rw [Erasure.pass]
        by_cases found : Matches alike term (shown (⟨c, none⟩ :: rest))
        · obtain ⟨-, kept⟩ := standing_of_matches nonempty joined clear found
          rw [if_pos ⟨rfl, found⟩]
          exact ⟨fun empty => absurd empty some_placeholder,
            ih joined clear.tail (fun _ => rfl) (fun _ => rfl) kept⟩
        · rw [if_neg fun both => found both.2]
          have later : Joined false (Erasure.pass alike term placeholder 0 rest) :=
            ih joined clear.tail (fun gone => gone) (fun other => absurd rfl other)
              (fun _ none => nomatch none)
          exact later

theorem inserted_of_mem_pass {skip : Nat} {slots : List Slot} {slot : Slot} {inserted : List Char}
    (member : slot ∈ pass alike term placeholder skip slots) (gone : slot.gone = some inserted) :
    inserted = [] ∨ inserted = placeholder ∨ ∃ old ∈ slots, old.gone = some inserted := by
  induction slots generalizing skip with
  | nil => cases skip <;> cases member
  | cons head rest ih =>
    have later : ∀ skip', slot ∈ pass alike term placeholder skip' rest →
        inserted = [] ∨ inserted = placeholder ∨ ∃ old ∈ head :: rest, old.gone = some inserted := by
      intro skip' member
      rcases ih member with empty | new | ⟨old, among, same⟩
      · exact Or.inl empty
      · exact Or.inr (Or.inl new)
      · exact Or.inr (Or.inr ⟨old, List.mem_cons_of_mem _ among, same⟩)
    cases skip with
    | succ skip =>
      rcases List.mem_cons.mp member with rfl | member
      · exact Or.inl (Option.some.inj gone).symm
      · exact later skip member
    | zero =>
      rw [pass] at member
      split at member
      · rcases List.mem_cons.mp member with rfl | member
        · exact Or.inr (Or.inl (Option.some.inj gone).symm)
        · exact later _ member
      · rcases List.mem_cons.mp member with rfl | member
        · exact Or.inr (Or.inr ⟨slot, List.mem_cons_self, gone⟩)
        · exact later 0 member

end Slots

section Places

variable {alike : Char → Char → Bool} {term placeholder : List Char}

def OccursAt (alike : Char → Char → Bool) (term text : List Char) (a : Nat) : Prop :=
  Matches alike term (text.drop a)

instance (text : List Char) (a : Nat) : Decidable (OccursAt alike term text a) :=
  inferInstanceAs (Decidable (Matches alike term _))

def GoneAt (slots : List Slot) (i : Nat) : Prop := ∃ slot, slots[i]? = some slot ∧ slot.gone ≠ none

@[simp] theorem goneAt_succ (slot : Slot) (rest : List Slot) (i : Nat) :
    GoneAt (slot :: rest) (i + 1) ↔ GoneAt rest i := by
  unfold GoneAt
  rw [List.getElem?_cons_succ]

@[simp] theorem goneAt_zero (slot : Slot) (rest : List Slot) :
    GoneAt (slot :: rest) 0 ↔ slot.gone ≠ none := by
  unfold GoneAt
  rw [List.getElem?_cons_zero]
  constructor
  · rintro ⟨_, ⟨⟩, gone⟩
    exact gone
  · exact fun gone => ⟨slot, rfl, gone⟩

def Within (alike : Char → Char → Bool) (term text : List Char) (i : Nat) : Prop :=
  ∃ a, OccursAt alike term text a ∧ a ≤ i ∧ i < a + term.length

theorem within_succ {c : Char} {text : List Char} {i : Nat} :
    Within alike term (c :: text) (i + 1) ↔
      (OccursAt alike term (c :: text) 0 ∧ i + 1 < term.length) ∨ Within alike term text i := by
  constructor
  · rintro ⟨a, occurs, low, high⟩
    cases a with
    | zero => exact Or.inl ⟨occurs, by omega⟩
    | succ a => exact Or.inr ⟨a, occurs, by omega, by omega⟩
  · rintro (⟨occurs, high⟩ | ⟨a, occurs, low, high⟩)
    · exact ⟨0, occurs, Nat.zero_le _, by omega⟩
    · exact ⟨a + 1, occurs, by omega, by omega⟩

/-- The occurrences of the term stand or are gone as wholes, and those that stand do not overlap. -/
structure Tidy (alike : Char → Char → Bool) (term : List Char) (slots : List Slot) : Prop where
  whole : ∀ a, OccursAt alike term (slots.map Slot.char) a →
    (∀ i, a ≤ i → i < a + term.length → GoneAt slots i) ∨
    ∀ i, a ≤ i → i < a + term.length → ¬GoneAt slots i
  disjoint : ∀ a b, OccursAt alike term (slots.map Slot.char) a →
    OccursAt alike term (slots.map Slot.char) b → a < b → b < a + term.length → GoneAt slots b

theorem Tidy.tail {slot : Slot} {rest : List Slot} (tidy : Tidy alike term (slot :: rest)) :
    Tidy alike term rest where
  whole a occurs := by
    rcases tidy.whole (a + 1) occurs with gone | stands
    · refine Or.inl fun i low high => ?_
      exact (goneAt_succ slot rest i).mp (gone (i + 1) (by omega) (by omega))
    · refine Or.inr fun i low high gone => ?_
      exact stands (i + 1) (by omega) (by omega) ((goneAt_succ slot rest i).mpr gone)
  disjoint a b occurs occurs' less within :=
    (goneAt_succ slot rest b).mp
      (tidy.disjoint (a + 1) (b + 1) occurs occurs' (by omega) (by omega))

theorem Tidy.gone_of_gone {slot : Slot} {rest : List Slot} (tidy : Tidy alike term (slot :: rest))
    (gone : slot.gone ≠ none) {i : Nat}
    (occurs : OccursAt alike term (slot.char :: rest.map Slot.char) 0) (less : i + 1 < term.length) :
    GoneAt rest i := by
  rcases tidy.whole 0 occurs with all_gone | stands
  · exact (goneAt_succ _ _ _).mp (all_gone (i + 1) (by omega) (by omega))
  · exact absurd ((goneAt_zero slot rest).mpr gone) (stands 0 (Nat.le_refl 0) (by omega))

theorem Tidy.stands_of_stands {slot : Slot} {rest : List Slot}
    (tidy : Tidy alike term (slot :: rest)) (standing : slot.gone = none) (nonempty : term ≠ [])
    (occurs : OccursAt alike term (slot.char :: rest.map Slot.char) 0) {i : Nat}
    (less : i < term.length) : ¬GoneAt (slot :: rest) i := by
  have count : 0 < term.length := List.length_pos_iff.mpr nonempty
  rcases tidy.whole 0 occurs with all_gone | stands
  · exact absurd standing ((goneAt_zero slot rest).mp (all_gone 0 (Nat.le_refl 0) (by omega)))
  · exact stands i (Nat.zero_le i) (by omega)

theorem Tidy.alone {slot : Slot} {rest : List Slot} (tidy : Tidy alike term (slot :: rest))
    (standing : slot.gone = none) (nonempty : term ≠ [])
    (occurs : OccursAt alike term (slot.char :: rest.map Slot.char) 0) (a : Nat)
    (less : a < term.length - 1) : ¬OccursAt alike term (rest.map Slot.char) a := by
  intro other
  have gone := tidy.disjoint 0 (a + 1) occurs other (by omega) (by omega)
  exact tidy.stands_of_stands standing nonempty occurs (by omega) gone

theorem Tidy.found {slot : Slot} {rest : List Slot} (tidy : Tidy alike term (slot :: rest))
    (standing : slot.gone = none) (nonempty : term ≠ [])
    (occurs : OccursAt alike term (slot.char :: rest.map Slot.char) 0) :
    Matches alike term (shown (slot :: rest)) := by
  refine matches_of_kept ?_ occurs
  intro among member
  obtain ⟨j, less, at_j⟩ := List.mem_take_iff_getElem.mp member
  by_contra gone
  have inside : j < (slot :: rest).length := by omega
  refine tidy.stands_of_stands standing nonempty occurs (i := j) (by omega) ⟨among, ?_, gone⟩
  rw [List.getElem?_eq_getElem inside, at_j]

theorem goneAt_pass (nonempty : term ≠ []) {skip : Nat} {slots : List Slot} {behindGone : Bool}
    (joined : Joined behindGone slots) (clear : Clear alike term slots) (long : skip ≤ slots.length)
    (standing : ∀ slot ∈ slots.take skip, slot.gone = none) (tidy : Tidy alike term slots)
    (begun : ∀ a, a < skip → ¬OccursAt alike term (slots.map Slot.char) a) (i : Nat) :
    GoneAt (pass alike term placeholder skip slots) i ↔
      i < skip ∨ GoneAt slots i ∨ Within alike term (slots.map Slot.char) i := by
  induction slots generalizing skip behindGone i with
  | nil =>
    have none_skipped : skip = 0 := Nat.le_zero.mp long
    subst none_skipped
    refine iff_of_false (fun gone => ?_) ?_
    · obtain ⟨_, nothing, -⟩ := gone
      cases nothing
    · rintro (less | ⟨_, nothing, -⟩ | ⟨a, occurs, -⟩)
      · omega
      · cases nothing
      · rw [List.map_nil, OccursAt, List.drop_nil] at occurs
        exact nonempty (List.length_eq_zero_iff.mp (Nat.le_zero.mp occurs.length_le))
  | cons slot rest ih =>
    have within_next := @within_succ alike term slot.char (rest.map Slot.char)
    obtain ⟨c, gone⟩ := slot
    cases skip with
    | succ skip =>
      rw [List.take_succ_cons, List.forall_mem_cons] at standing
      cases standing.1
      have later := ih joined clear.tail (Nat.le_of_succ_le_succ long) standing.2 tidy.tail
        (fun a less => begun (a + 1) (Nat.succ_lt_succ less))
      rw [pass]
      cases i with
      | zero => exact iff_of_true ((goneAt_zero _ _).mpr (Option.some_ne_none _)) (Or.inl (by omega))
      | succ i =>
        rw [goneAt_succ, goneAt_succ, later, List.map_cons, within_next, Nat.succ_lt_succ_iff]
        have first := begun 0 (by omega)
        tauto
    | zero =>
      have unbegun : ∀ a, a < 0 → ¬OccursAt alike term (rest.map Slot.char) a :=
        fun a less => absurd less (Nat.not_lt_zero a)
      cases gone with
      | some inserted =>
        have later := ih joined.2 clear.tail (Nat.zero_le _) (fun _ none => nomatch none) tidy.tail
          unbegun
        have unfound : pass alike term placeholder 0 (⟨c, some inserted⟩ :: rest) =
            ⟨c, some inserted⟩ :: pass alike term placeholder 0 rest :=
          if_neg fun both => nomatch both.1
        rw [unfound]
        cases i with
        | zero =>
          have here : GoneAt (⟨c, some inserted⟩ :: rest) 0 :=
            (goneAt_zero _ _).mpr (Option.some_ne_none _)
          exact iff_of_true ((goneAt_zero _ _).mpr (Option.some_ne_none _)) (Or.inr (Or.inl here))
        | succ i =>
          have covered : OccursAt alike term (c :: rest.map Slot.char) 0 ∧ i + 1 < term.length →
              GoneAt rest i :=
            fun both => tidy.gone_of_gone (Option.some_ne_none inserted) both.1 both.2
          rw [goneAt_succ, goneAt_succ, later, List.map_cons, within_next]
          have negative : ∀ n : Nat, ¬n < 0 := Nat.not_lt_zero
          have first := negative i
          have second := negative (i + 1)
          tauto
      | none =>
        have standing_here : ¬GoneAt (⟨c, none⟩ :: rest) 0 := by
          rw [goneAt_zero]
          exact fun gone => gone rfl
        have count : 0 < term.length := List.length_pos_iff.mpr nonempty
        by_cases found : Matches alike term (shown (⟨c, none⟩ :: rest))
        · have stood : Joined false (⟨c, none⟩ :: rest) := joined
          obtain ⟨-, -, occurs⟩ := kept_of_matches (List.suffix_refl term) stood clear found
          obtain ⟨within, kept⟩ := standing_of_matches nonempty joined clear found
          have later := ih joined clear.tail within kept tidy.tail (tidy.alone rfl nonempty occurs)
          rw [pass, if_pos ⟨rfl, found⟩]
          cases i with
          | zero =>
            exact iff_of_true ((goneAt_zero _ _).mpr (Option.some_ne_none _))
              (Or.inr (Or.inr ⟨0, occurs, Nat.le_refl 0, by omega⟩))
          | succ i =>
            rw [goneAt_succ, goneAt_succ, later, List.map_cons, within_next]
            have here : OccursAt alike term (c :: rest.map Slot.char) 0 := occurs
            have shift : i < term.length - 1 ↔ i + 1 < term.length := by omega
            have negative := Nat.not_lt_zero (i + 1)
            tauto
        · have absent : ¬OccursAt alike term (c :: rest.map Slot.char) 0 :=
            fun occurs => found (tidy.found rfl nonempty occurs)
          have stood : Joined false rest := joined
          have later := ih stood clear.tail (Nat.zero_le _) (fun _ none => nomatch none)
            tidy.tail unbegun
          rw [pass, if_neg fun both => found both.2]
          cases i with
          | zero =>
            refine iff_of_false standing_here ?_
            rintro (less | gone | ⟨a, occurs, low, -⟩)
            · exact Nat.not_lt_zero 0 less
            · exact standing_here gone
            · rw [Nat.le_zero.mp low] at occurs
              exact absent occurs
          | succ i =>
            rw [goneAt_succ, goneAt_succ, later, List.map_cons, within_next]
            have first := Nat.not_lt_zero i
            have second := Nat.not_lt_zero (i + 1)
            tauto

theorem mem_cells {k : Nat} {slots : List Slot} {i : Nat} :
    some i ∈ (cells k slots).map Prod.snd → ∃ j, i = k + j ∧ ¬GoneAt slots j := by
  induction slots generalizing k with
  | nil => exact fun none => nomatch none
  | cons slot rest ih =>
    have later : some i ∈ (cells (k + 1) rest).map Prod.snd →
        ∃ j, i = k + j ∧ ¬GoneAt (slot :: rest) j := by
      intro member
      obtain ⟨j, same, stands⟩ := ih member
      exact ⟨j + 1, by omega, fun gone => stands ((goneAt_succ _ _ _).mp gone)⟩
    obtain ⟨c, gone⟩ := slot
    cases gone with
    | none =>
      intro member
      rw [cells, List.map_cons, List.mem_cons] at member
      rcases member with here | member
      · exact ⟨0, by simpa using here, by simp⟩
      · exact later member
    | some inserted =>
      intro member
      rw [cells, List.map_append, List.mem_append] at member
      rcases member with here | member
      · simp at here
      · exact later member

theorem filter_cells {k : Nat} {slots others : List Slot}
    (chars : slots.map Slot.char = others.map Slot.char) (gone : ∀ i, GoneAt slots i ↔ GoneAt others i) :
    (cells k slots).filter (fun cell => cell.2.isSome) =
      (cells k others).filter (fun cell => cell.2.isSome) := by
  induction slots generalizing k others with
  | nil =>
    cases others with
    | nil => rfl
    | cons _ _ => cases chars
  | cons slot rest ih =>
    cases others with
    | nil => cases chars
    | cons other others =>
      rw [List.map_cons, List.map_cons, List.cons_eq_cons] at chars
      have later := ih (k := k + 1) chars.2 fun i => by
        have next := gone (i + 1)
        rwa [goneAt_succ, goneAt_succ] at next
      have here := gone 0
      rw [goneAt_zero, goneAt_zero] at here
      have placeholders : ∀ inserted : List Char,
          (inserted.map (fun c => ((c, none) : Cell))).filter (fun cell => cell.2.isSome) = [] := by
        intro inserted
        simp
      obtain ⟨c, standing⟩ := slot
      obtain ⟨d, standing'⟩ := other
      obtain rfl : c = d := chars.1
      cases standing with
      | none =>
        cases standing' with
        | none => simp [cells, later]
        | some inserted => simp at here
      | some inserted =>
        cases standing' with
        | none => simp at here
        | some inserted' =>
          rw [cells, cells, List.filter_append, List.filter_append, placeholders, placeholders, later]

end Places

end Taroai.Erasure
