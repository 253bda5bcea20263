import Mathlib.Data.List.Infix

/-! Search and replacement of a literal text: `part in whole`, and what `re.sub` does with an
escaped pattern. Matches are found from left to right and do not overlap. When two characters
count as one is a parameter. -/

namespace Taroai

/-- `part in whole`. -/
def includes (whole part : String) : Bool :=
  whole.toList.tails.any fun suffix => part.toList.isPrefixOf suffix

theorem includes_iff {whole part : String} :
    includes whole part = true ↔ part.toList <:+: whole.toList := by
  rw [includes, List.any_eq_true, List.infix_iff_prefix_suffix]
  constructor
  · rintro ⟨suffix, member, starts⟩
    exact ⟨suffix, List.isPrefixOf_iff_prefix.mp starts, (List.mem_tails _ _).mp member⟩
  · rintro ⟨suffix, starts, ends⟩
    exact ⟨suffix, (List.mem_tails _ _).mpr ends, List.isPrefixOf_iff_prefix.mpr starts⟩

/-- The text before and behind the first occurrence of a part: `whole.split(part, 1)`. -/
def cutAt (part : List Char) : List Char → Option (List Char × List Char)
  | [] => if part = [] then some ([], []) else none
  | c :: text =>
    if part <+: c :: text then some ([], (c :: text).drop part.length)
    else (cutAt part text).map fun (front, back) => (c :: front, back)

theorem cutAt_eq_some {part whole front back : List Char}
    (found : cutAt part whole = some (front, back)) : whole = front ++ (part ++ back) := by
  induction whole generalizing front back with
  | nil =>
    unfold cutAt at found
    split at found
    · cases found
      simp_all
    · cases found
  | cons c text ih =>
    unfold cutAt at found
    split at found
    · rename_i starts
      cases found
      obtain ⟨back, whole_eq⟩ := starts
      simp [← whole_eq]
    · obtain ⟨⟨front', back'⟩, cut, same⟩ := Option.map_eq_some_iff.mp found
      cases same
      exact congrArg (c :: ·) (ih cut)

theorem cutAt_char {c : Char} {front : List Char} (free : c ∉ front) (back : List Char) :
    cutAt [c] (front ++ c :: back) = some (front, back) := by
  induction front with
  | nil =>
    have here : [c] <+: c :: back := ⟨back, rfl⟩
    rw [List.nil_append, cutAt, if_pos here]
    rfl
  | cons d front ih =>
    rw [List.mem_cons, not_or] at free
    have here : ¬[c] <+: d :: (front ++ c :: back) := by
      rw [List.cons_prefix_cons]
      exact fun starts => free.1 starts.1
    rw [List.cons_append, cutAt, if_neg here, ih free.2]
    rfl

theorem not_mem_of_cutAt {c : Char} {whole front back : List Char}
    (found : cutAt [c] whole = some (front, back)) : c ∉ front := by
  induction whole generalizing front back with
  | nil => cases found
  | cons d text ih =>
    unfold cutAt at found
    split at found
    · cases found
      exact List.not_mem_nil
    · rename_i other
      obtain ⟨⟨front', back'⟩, cut, same⟩ := Option.map_eq_some_iff.mp found
      cases same
      rw [List.mem_cons, not_or]
      exact ⟨fun starts => other ⟨text, by rw [starts]; rfl⟩, ih cut⟩

section Replace
variable (part new : List Char)

/-- `whole.replace(part, new)` for a part that is not empty. The number counts the characters of an
occurrence that are still to be passed. -/
def replaceFrom : Nat → List Char → List Char
  | _, [] => []
  | passed + 1, _ :: rest => replaceFrom passed rest
  | 0, c :: rest =>
    if part <+: c :: rest then new ++ replaceFrom (part.length - 1) rest
    else c :: replaceFrom 0 rest

def replaceAll (whole : List Char) : List Char := replaceFrom part new 0 whole

variable {part new}

theorem replaceFrom_append (front back : List Char) :
    replaceFrom part new front.length (front ++ back) = replaceFrom part new 0 back := by
  induction front with
  | nil => rfl
  | cons c front ih => exact ih

theorem replaceAll_occurrence (nonempty : part ≠ []) (back : List Char) :
    replaceAll part new (part ++ back) = new ++ replaceAll part new back := by
  cases part with
  | nil => exact absurd rfl nonempty
  | cons c part =>
    have starts : c :: part <+: c :: (part ++ back) := List.prefix_append (c :: part) back
    rw [replaceAll, List.cons_append, replaceFrom, if_pos starts, List.length_cons,
      Nat.add_sub_cancel, replaceFrom_append]
    rfl

theorem replaceAll_kept {front back : List Char}
    (kept : ∀ rest, rest ≠ [] → rest <:+ front → ¬part <+: rest ++ back) :
    replaceAll part new (front ++ back) = front ++ replaceAll part new back := by
  induction front with
  | nil => rfl
  | cons c front ih =>
    have here : ¬part <+: c :: (front ++ back) :=
      kept (c :: front) (List.cons_ne_nil c front) (List.suffix_refl _)
    have later := ih fun rest some suffix => kept rest some (suffix.trans (List.suffix_cons c front))
    rw [replaceAll, List.cons_append, replaceFrom, if_neg here]
    exact congrArg (c :: ·) later

end Replace

namespace Substitute

variable (alike : Char → Char → Bool)

/-- The characters that the term matches at the start of the text. -/
def matched : List Char → List Char → Option (List Char)
  | [], _ => some []
  | _ :: _, [] => none
  | t :: term, c :: text =>
    if alike t c then (matched term text).map fun rest => c :: rest else none

/-- Replacement of a term that is not empty; `skip` characters belong to the last match. -/
def scan (term : List Char) (put : List Char → List Char) : Nat → List Char → List Char
  | _, [] => []
  | skip + 1, _ :: text => scan term put skip text
  | 0, c :: text =>
    match matched alike term (c :: text) with
    | some found => put found ++ scan term put (term.length - 1) text
    | none => c :: scan term put 0 text

/-- The empty pattern matches before each character and at the end. -/
def between (put : List Char → List Char) : List Char → List Char
  | [] => put []
  | c :: text => put [] ++ c :: between put text

def substitute (term : List Char) (put : List Char → List Char) (text : List Char) : List Char :=
  if term = [] then between put text else scan alike term put 0 text

end Substitute

end Taroai
