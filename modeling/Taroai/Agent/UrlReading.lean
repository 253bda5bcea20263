import Taroai.Lib.Substitute
import Taroai.Lib.Whitespace
import Mathlib.Data.List.DropRight
import Mathlib.Data.List.TakeWhile

/-! The URLs that `_unsupported_response_urls` reads in a text. A URL runs to the next blank or
bracket, so the text is read word by word, and a word has at most one URL. -/

namespace Taroai.Agent.UrlReading

/-- `[^\\s<>\\])]` -/
def bodyChar (c : Char) : Bool := !(isSpace c || c = '<' || c = '>' || c = ']' || c = ')')

def schemes : List (List Char) := ["https://".toList, "http://".toList]

/-- Whether the regular expression `https?://[^\\s<>\\])]+` matches here. -/
def begins (text : List Char) : Bool :=
  schemes.any fun scheme => scheme.isPrefixOf text && (text.drop scheme.length).head?.any bodyChar

/-- `re.findall`; within a match until its last character is passed. -/
def findUrls (within : Bool) : List Char → List (List Char)
  | [] => []
  | c :: rest =>
    if within then findUrls (bodyChar c) rest
    else if begins (c :: rest) then (c :: rest).takeWhile bodyChar :: findUrls true rest
    else findUrls false rest

def trailing (c : Char) : Bool := "`*_~.,;:!?，。；：！？".toList.contains c

/-- `rstrip` -/
def trimmed (url : List Char) : List Char := url.rdropWhile trailing

def urlsIn (text : List Char) : List (List Char) := (findUrls false text).map trimmed

def wordsOf (text : List Char) : List (List Char) := text.splitOnP fun c => !bodyChar c

def cutUrl : List Char → Option (List Char × List Char)
  | [] => none
  | c :: rest =>
    if begins (c :: rest) then some ([], c :: rest)
    else (cutUrl rest).map fun (front, url) => (c :: front, url)

def Cut (back : List Char) : Prop := ∀ c ∈ back.head?, bodyChar c = false

theorem cut_nil : Cut [] := fun _ none => nomatch none

theorem cut_cons {sep : Char} (outside : bodyChar sep = false) (rest : List Char) :
    Cut (sep :: rest) := by
  rintro c ⟨⟩
  exact outside

theorem word_induction {P : List Char → Prop} (last : ∀ word, word.all bodyChar = true → P word)
    (next : ∀ word sep rest, word.all bodyChar = true → bodyChar sep = false → P rest →
      P (word ++ sep :: rest)) (text : List Char) : P text := by
  induction length : text.length using Nat.strong_induction_on generalizing text with
  | _ n ih =>
    have parts := List.takeWhile_append_dropWhile (p := bodyChar) (l := text)
    have word : (text.takeWhile bodyChar).all bodyChar = true := List.all_takeWhile
    cases back : text.dropWhile bodyChar with
    | nil =>
      rw [back, List.append_nil] at parts
      rw [← parts]
      exact last _ word
    | cons sep rest =>
      have outside : bodyChar sep = false := by
        have := List.head?_dropWhile_not bodyChar text
        rw [back] at this
        exact this
      rw [← parts, back]
      refine next _ sep rest word outside (ih rest.length ?_ rest rfl)
      have := congrArg List.length parts
      rw [back, List.length_append, List.length_cons] at this
      omega

theorem wordsOf_word {word : List Char} (body : word.all bodyChar = true) :
    wordsOf word = [word] := by
  refine List.splitOnP_eq_singleton fun c among => ?_
  rw [List.all_eq_true.mp body c among]
  rfl

theorem wordsOf_append {word : List Char} (body : word.all bodyChar = true) {sep : Char}
    (outside : bodyChar sep = false) (rest : List Char) :
    wordsOf (word ++ sep :: rest) = word :: wordsOf rest := by
  refine List.splitOnP_append_cons_of_forall_mem (fun c among => ?_) sep (by rw [outside]; rfl) rest
  rw [List.all_eq_true.mp body c among]
  rfl

theorem schemes_body : ∀ scheme ∈ schemes, scheme.all bodyChar = true := by decide

theorem prefix_append_cut {part : List Char} (body : part.all bodyChar = true) {back : List Char}
    (cut : Cut back) {text : List Char} : part <+: text ++ back ↔ part <+: text := by
  induction part generalizing text with
  | nil => simp
  | cons c part ih =>
    rw [List.all_cons, Bool.and_eq_true] at body
    cases text with
    | nil =>
      rw [List.nil_append]
      constructor
      · rintro ⟨rest, rfl⟩
        rw [cut c rfl] at body
        cases body.1
      · rintro ⟨rest, none⟩
        cases none
    | cons d text =>
      rw [List.cons_append, List.cons_prefix_cons, List.cons_prefix_cons, ih body.2]

theorem begins_iff {text : List Char} :
    begins text = true ↔ ∃ scheme ∈ schemes, ∃ c rest, text = scheme ++ c :: rest ∧
      bodyChar c = true := by
  unfold begins
  rw [List.any_eq_true]
  refine exists_congr fun scheme => and_congr_right fun _ => ?_
  rw [Bool.and_eq_true, List.isPrefixOf_iff_prefix]
  constructor
  · rintro ⟨⟨rest, rfl⟩, head⟩
    rw [List.drop_left] at head
    cases rest with
    | nil => cases head
    | cons c rest => exact ⟨c, rest, rfl, by simpa using head⟩
  · rintro ⟨c, rest, rfl, body⟩
    refine ⟨List.prefix_append _ _, ?_⟩
    rw [List.drop_left]
    simpa using body

theorem begins_append {text : List Char} (starts : begins text = true) (back : List Char) :
    begins (text ++ back) = true := by
  obtain ⟨scheme, known, c, rest, rfl, body⟩ := begins_iff.mp starts
  exact begins_iff.mpr ⟨scheme, known, c, rest ++ back, by simp, body⟩

theorem begins_append_cut {back : List Char} (cut : Cut back) (text : List Char) :
    begins (text ++ back) = begins text := by
  rw [Bool.eq_iff_iff]
  constructor
  · intro starts
    obtain ⟨scheme, known, c, rest, same, body⟩ := begins_iff.mp starts
    have whole : (scheme ++ [c]).all bodyChar = true := by
      rw [List.all_append, schemes_body scheme known]
      simp [body]
    have inside : scheme ++ [c] <+: text :=
      (prefix_append_cut whole cut).mp ⟨rest, by rw [same]; simp⟩
    obtain ⟨rest', rfl⟩ := inside
    exact begins_iff.mpr ⟨scheme, known, c, rest', by simp, body⟩
  · exact fun starts => begins_append starts back

theorem begins_nil : begins [] = false := by decide

theorem findUrls_inside (c : Char) (rest : List Char) :
    findUrls true (c :: rest) = findUrls (bodyChar c) rest := by
  rw [findUrls, if_pos rfl]

theorem findUrls_begins {c : Char} {rest : List Char} (starts : begins (c :: rest) = true) :
    findUrls false (c :: rest) = (c :: rest).takeWhile bodyChar :: findUrls true rest := by
  rw [findUrls, if_neg Bool.false_ne_true, if_pos starts]

theorem findUrls_passed {c : Char} {rest : List Char} (none : begins (c :: rest) = false) :
    findUrls false (c :: rest) = findUrls false rest := by
  rw [findUrls, if_neg Bool.false_ne_true, none, if_neg Bool.false_ne_true]

theorem takeWhile_append_cut {back : List Char} (cut : Cut back) (text : List Char) :
    (text ++ back).takeWhile bodyChar = text.takeWhile bodyChar := by
  induction text with
  | nil =>
    cases back with
    | nil => rfl
    | cons c back => rw [List.nil_append, List.takeWhile_cons, cut c rfl]; rfl
  | cons c text ih => rw [List.cons_append, List.takeWhile_cons, List.takeWhile_cons, ih]

theorem findUrls_append_cut (mode : Bool) (text : List Char) {sep : Char}
    (outside : bodyChar sep = false) (rest : List Char) :
    findUrls mode (text ++ sep :: rest) = findUrls mode text ++ findUrls false rest := by
  have cut := cut_cons outside rest
  induction text generalizing mode with
  | nil =>
    cases mode with
    | true => rw [List.nil_append, findUrls_inside, outside, findUrls.eq_1, List.nil_append]
    | false =>
      have none := begins_append_cut cut []
      rw [begins_nil] at none
      rw [List.nil_append, findUrls_passed none, findUrls.eq_1, List.nil_append]
  | cons c text ih =>
    cases mode with
    | true => rw [List.cons_append, findUrls_inside, findUrls_inside, ih]
    | false =>
      have same := begins_append_cut cut (c :: text)
      cases starts : begins (c :: text) with
      | true =>
        rw [starts] at same
        have taken := takeWhile_append_cut cut (c :: text)
        rw [List.cons_append] at same taken ⊢
        rw [findUrls_begins same, findUrls_begins starts, ih, taken, List.cons_append]
      | false =>
        rw [starts] at same
        rw [List.cons_append] at same ⊢
        rw [findUrls_passed same, findUrls_passed starts, ih]

theorem findUrls_within_word {word : List Char} (body : word.all bodyChar = true) :
    findUrls true word = [] := by
  induction word with
  | nil => rw [findUrls]
  | cons c word ih =>
    rw [List.all_cons, Bool.and_eq_true] at body
    rw [findUrls_inside, body.1, ih body.2]

theorem findUrls_word {word : List Char} (body : word.all bodyChar = true) :
    findUrls false word = ((cutUrl word).map Prod.snd).toList := by
  induction word with
  | nil => rw [findUrls]; rfl
  | cons c word ih =>
    have rest := body
    rw [List.all_cons, Bool.and_eq_true] at rest
    cases starts : begins (c :: word) with
    | true =>
      rw [findUrls_begins starts, findUrls_within_word rest.2, cutUrl, if_pos starts,
        List.takeWhile_eq_self_iff.mpr (List.all_eq_true.mp body)]
      rfl
    | false =>
      rw [findUrls_passed starts, ih rest.2, cutUrl, starts, if_neg Bool.false_ne_true,
        Option.map_map]
      rfl

theorem urlsIn_word {word : List Char} (body : word.all bodyChar = true) :
    urlsIn word = ((cutUrl word).map fun parts => trimmed parts.2).toList := by
  rw [urlsIn, findUrls_word body]
  cases cutUrl word <;> rfl

def Silent (front back : List Char) : Prop :=
  ∀ rest, rest ≠ [] → rest <:+ front → begins (rest ++ back) = false

theorem silent_cons {c : Char} {front back : List Char} (here : begins (c :: (front ++ back)) = false)
    (later : Silent front back) : Silent (c :: front) back := by
  intro rest some suffix
  obtain rfl | suffix := List.suffix_cons_iff.mp suffix
  · exact here
  · exact later rest some suffix

theorem cutUrl_none {word : List Char} (none : cutUrl word = none) : Silent word [] := by
  induction word with
  | nil =>
    intro rest some suffix
    exact absurd (List.suffix_nil.mp suffix) some
  | cons c word ih =>
    rw [cutUrl] at none
    cases starts : begins (c :: word) with
    | true => rw [if_pos starts] at none; cases none
    | false =>
      rw [starts, if_neg Bool.false_ne_true, Option.map_eq_none_iff] at none
      exact silent_cons (by rwa [List.append_nil]) (ih none)

theorem cutUrl_some {word front url : List Char} (cut : cutUrl word = some (front, url)) :
    word = front ++ url ∧ begins url = true ∧ Silent front url := by
  induction word generalizing front with
  | nil => cases cut
  | cons c word ih =>
    rw [cutUrl] at cut
    cases starts : begins (c :: word) with
    | true =>
      rw [if_pos starts] at cut
      obtain ⟨rfl, rfl⟩ := Prod.mk.inj (Option.some.inj cut)
      exact ⟨rfl, starts, fun rest some suffix => absurd (List.suffix_nil.mp suffix) some⟩
    | false =>
      rw [starts, if_neg Bool.false_ne_true] at cut
      obtain ⟨⟨front', url'⟩, later, same⟩ := Option.map_eq_some_iff.mp cut
      obtain ⟨rfl, rfl⟩ := Prod.mk.inj same
      obtain ⟨rfl, begun, silent⟩ := ih later
      exact ⟨rfl, begun, silent_cons starts silent⟩

theorem findUrls_silent {front back : List Char} (silent : Silent front back) :
    findUrls false (front ++ back) = findUrls false back := by
  induction front with
  | nil => rfl
  | cons c front ih =>
    have here := silent (c :: front) (List.cons_ne_nil c front) (List.suffix_refl _)
    rw [List.cons_append] at here ⊢
    rw [findUrls_passed here]
    exact ih fun rest some suffix => silent rest some (suffix.trans (List.suffix_cons c front))

theorem Silent.append_cut {front back rest : List Char} (silent : Silent front back)
    (cut : Cut rest) : Silent front (back ++ rest) := by
  intro part some suffix
  rw [← List.append_assoc, begins_append_cut cut]
  exact silent part some suffix

theorem trimmed_append {front : List Char} (kept : ∀ c ∈ front.getLast?, trailing c = false)
    (back : List Char) : trimmed (front ++ back) = front ++ trimmed back := by
  induction back using List.reverseRecOn with
  | nil =>
    rw [List.append_nil, trimmed, trimmed, List.rdropWhile_nil, List.append_nil,
      List.rdropWhile_eq_self_iff]
    intro some
    rw [kept _ (List.getLast?_eq_some_getLast some)]
    decide
  | append_singleton back c ih =>
    rw [← List.append_assoc, trimmed, trimmed, List.rdropWhile_concat, List.rdropWhile_concat]
    split
    · exact ih
    · rw [List.append_assoc]

theorem trimmed_tail {url trail : List Char} (drops : trail.all trailing = true) :
    trimmed (url ++ trail) = trimmed url := by
  induction trail using List.reverseRecOn with
  | nil => rw [List.append_nil]
  | append_singleton trail c ih =>
    rw [List.all_append, Bool.and_eq_true] at drops
    have last : trailing c = true := by simpa using drops.2
    rw [← List.append_assoc, trimmed, List.rdropWhile_concat, if_pos last]
    exact ih drops.1

theorem trimmed_parts (url : List Char) :
    ∃ trail, url = trimmed url ++ trail ∧ trail.all trailing = true :=
  ⟨url.rtakeWhile trailing, List.rdropWhile_append_rtakeWhile.symm,
    List.all_eq_true.mpr fun _ among => List.mem_rtakeWhile_imp among⟩

theorem trimmed_last (url : List Char) : ∀ c ∈ (trimmed url).getLast?, trailing c = false := by
  intro c last
  have nonempty : trimmed url ≠ [] := by
    intro empty
    rw [empty] at last
    cases last
  have kept := List.rdropWhile_last_not trailing url nonempty
  rw [List.getLast?_eq_some_getLast nonempty] at last
  obtain rfl := Option.some.inj last
  exact Bool.eq_false_iff.mpr kept

theorem schemes_last : ∀ scheme ∈ schemes, ∀ c ∈ scheme.getLast?, trailing c = false := by
  have slash : ∀ scheme ∈ schemes, scheme.getLast? = some '/' := by decide
  intro scheme known c last
  rw [slash scheme known] at last
  obtain rfl := Option.some.inj last
  decide

section
variable {source target : List Char}

/-- What the replacement needs of the URL that is replaced: it is trimmed, and more than a
scheme. -/
structure Replaceable (source : List Char) : Prop where
  begins : begins source = true
  body : source.all bodyChar = true
  last : ∀ c ∈ source.getLast?, trailing c = false

theorem Replaceable.nonempty (replaceable : Replaceable source) : source ≠ [] := by
  rintro rfl
  exact absurd replaceable.begins (by decide)

theorem Replaceable.begins_of_prefix (replaceable : Replaceable source) {text : List Char}
    (starts : source <+: text) : UrlReading.begins text = true := by
  obtain ⟨rest, rfl⟩ := starts
  exact begins_append replaceable.begins rest

theorem Replaceable.not_trailing (replaceable : Replaceable source) {c : Char}
    (drops : trailing c = true) (rest : List Char) : ¬source <+: c :: rest := by
  intro starts
  obtain ⟨scheme, known, d, rest', same, -⟩ :=
    begins_iff.mp (replaceable.begins_of_prefix starts)
  have first : ∀ scheme ∈ schemes, scheme.head? = some 'h' := by decide
  have head := congrArg List.head? same
  rw [List.head?_cons, List.head?_append, first scheme known] at head
  obtain rfl : c = 'h' := Option.some.inj head
  exact absurd drops (by decide)

def putUrl (source target word : List Char) : List Char :=
  match cutUrl word with
  | none => word
  | some (front, url) =>
    if trimmed url = source then front ++ (target ++ url.drop source.length) else word

theorem replaceAll_front (replaceable : Replaceable source) {front back : List Char}
    (silent : Silent front back) :
    replaceAll source target (front ++ back) = front ++ replaceAll source target back :=
  replaceAll_kept fun rest some suffix starts =>
    absurd (replaceable.begins_of_prefix starts) (by rw [silent rest some suffix]; decide)

theorem replaceAll_trail (replaceable : Replaceable source) {trail : List Char}
    (drops : trail.all trailing = true) (back : List Char) :
    replaceAll source target (trail ++ back) = trail ++ replaceAll source target back := by
  refine replaceAll_kept fun rest some suffix => ?_
  cases rest with
  | nil => exact absurd rfl some
  | cons c rest =>
    exact replaceable.not_trailing
      (List.all_eq_true.mp drops c (suffix.subset List.mem_cons_self)) _

theorem infix_trimmed (replaceable : Replaceable source) {url : List Char}
    (occurs : source <:+: url) : source <:+: trimmed url := by
  obtain ⟨front, back, rfl⟩ := occurs
  have kept : ∀ c ∈ (front ++ source).getLast?, trailing c = false := by
    intro c last
    rw [List.getLast?_append_of_ne_nil _ replaceable.nonempty] at last
    exact replaceable.last c last
  rw [trimmed_append kept]
  exact ⟨front, trimmed back, rfl⟩

theorem replaceAll_word (replaceable : Replaceable source) {word : List Char}
    (apart : ∀ url ∈ urlsIn word, url ≠ source → ¬source <:+: url)
    (body : word.all bodyChar = true) {back : List Char} (cut : Cut back) :
    replaceAll source target (word ++ back) =
      putUrl source target word ++ replaceAll source target back := by
  unfold putUrl
  cases parts : cutUrl word with
  | none =>
    have silent : Silent word back := by
      simpa using (cutUrl_none parts).append_cut cut
    exact replaceAll_front replaceable silent
  | some parts' =>
    obtain ⟨front, url⟩ := parts'
    obtain ⟨rfl, -, silent⟩ := cutUrl_some parts
    dsimp only
    rw [List.append_assoc, replaceAll_front replaceable (silent.append_cut cut)]
    by_cases same : trimmed url = source
    · obtain ⟨trail, whole, drops⟩ := trimmed_parts url
      rw [same] at whole
      rw [if_pos same, whole, List.drop_left, List.append_assoc,
        replaceAll_occurrence replaceable.nonempty, replaceAll_trail replaceable drops]
      simp only [List.append_assoc]
    · rw [if_neg same, List.append_assoc]
      congr 1
      refine replaceAll_kept fun rest some suffix starts => ?_
      have among : trimmed url ∈ urlsIn (front ++ url) := by
        rw [urlsIn_word body, parts]
        exact List.mem_singleton_self _
      refine apart (trimmed url) among same (infix_trimmed replaceable ?_)
      have inside := (prefix_append_cut replaceable.body cut).mp starts
      exact inside.isInfix.trans suffix.isInfix

/-- The text before the URL and what was trimmed off behind it make no URL with the target. -/
structure Alone (front target trail : List Char) : Prop where
  before : Silent front (target ++ trail)
  after : trail = [] ∨ ∀ scheme ∈ schemes, ¬scheme <:+ target

theorem begins_trail {text trail : List Char} (drops : trail.all trailing = true)
    (after : trail = [] ∨ ∀ scheme ∈ schemes, scheme ≠ text) :
    begins (text ++ trail) = begins text := by
  rw [Bool.eq_iff_iff]
  refine ⟨fun starts => ?_, fun starts => begins_append starts trail⟩
  obtain rfl | after := after
  · rwa [List.append_nil] at starts
  · obtain ⟨scheme, known, c, rest, same, body⟩ := begins_iff.mp starts
    obtain ⟨more, whole, tail⟩ | ⟨more, whole, tail⟩ := List.append_eq_append_iff.mp same
    · -- The scheme does not reach into what was trimmed off: its last character is kept.
      cases more using List.reverseRecOn with
      | nil => exact absurd (by simpa using whole) (after scheme known)
      | append_singleton more last =>
        have kept := schemes_last scheme known last (by rw [whole]; simp)
        have dropped := List.all_eq_true.mp drops last (by rw [tail]; simp)
        rw [kept] at dropped
        cases dropped
    · cases more with
      | nil => exact absurd (by simpa using whole.symm) (after scheme known)
      | cons d more =>
        obtain rfl := (List.cons.inj tail).1
        exact begins_iff.mpr ⟨scheme, known, c, more, whole, body⟩

theorem suffix_after {c : Char} {text trail : List Char}
    (after : trail = [] ∨ ∀ scheme ∈ schemes, ¬scheme <:+ c :: text) :
    (trail = [] ∨ ∀ scheme ∈ schemes, scheme ≠ c :: text) ∧
      (trail = [] ∨ ∀ scheme ∈ schemes, ¬scheme <:+ text) := by
  obtain none | after := after
  · exact ⟨.inl none, .inl none⟩
  · refine ⟨.inr fun scheme known same => ?_, .inr fun scheme known suffix => ?_⟩
    · exact after scheme known (same ▸ List.suffix_refl _)
    · exact after scheme known (suffix.trans (List.suffix_cons c text))

theorem trailing_body {trail : List Char} (drops : trail.all trailing = true) :
    trail.all bodyChar = true := by
  have each : ∀ c ∈ "`*_~.,;:!?，。；：！？".toList, bodyChar c = true := by
    exact forall_mem_of_all (by decide)
  refine List.all_eq_true.mpr fun c among => each c ?_
  exact List.contains_iff_mem.mp (List.all_eq_true.mp drops c among)

theorem begins_trailing {trail : List Char} (drops : trail.all trailing = true) :
    begins trail = false := by
  refine Bool.eq_false_iff.mpr fun starts => ?_
  obtain ⟨scheme, known, c, rest, rfl, -⟩ := begins_iff.mp starts
  have first : ∀ scheme ∈ schemes, 'h' ∈ scheme := by decide
  have dropped := List.all_eq_true.mp drops 'h' (List.mem_append_left _ (first scheme known))
  exact absurd dropped (by decide)

theorem findUrls_trailing {trail : List Char} (drops : trail.all trailing = true)
    (within : Bool) : findUrls within trail = [] := by
  cases within with
  | true => exact findUrls_within_word (trailing_body drops)
  | false =>
    induction trail with
    | nil => rw [findUrls]
    | cons c trail ih =>
      rw [findUrls_passed (begins_trailing drops)]
      rw [List.all_cons, Bool.and_eq_true] at drops
      exact ih drops.2

theorem takeWhile_trail (text : List Char) {trail : List Char} (drops : trail.all trailing = true) :
    trimmed ((text ++ trail).takeWhile bodyChar) = trimmed (text.takeWhile bodyChar) := by
  rw [List.takeWhile_append]
  split
  · rename_i whole
    have taken : trail.takeWhile bodyChar = trail :=
      List.takeWhile_eq_self_iff.mpr (List.all_eq_true.mp (trailing_body drops))
    rw [taken, trimmed_tail drops, (List.takeWhile_prefix bodyChar).eq_of_length whole]
  · rfl

theorem trimmed_findUrls_trail {trail : List Char} (drops : trail.all trailing = true)
    (within : Bool) {text : List Char}
    (after : trail = [] ∨ ∀ scheme ∈ schemes, ¬scheme <:+ text) :
    (findUrls within (text ++ trail)).map trimmed = (findUrls within text).map trimmed := by
  induction text generalizing within with
  | nil => rw [List.nil_append, findUrls_trailing drops, findUrls]
  | cons c text ih =>
    obtain ⟨here, later⟩ := suffix_after after
    rw [List.cons_append]
    cases within with
    | true => rw [findUrls_inside, findUrls_inside, ih _ later]
    | false =>
      have same := begins_trail drops here
      rw [List.cons_append] at same
      cases starts : begins (c :: text) with
      | true =>
        rw [starts] at same
        rw [findUrls_begins same, findUrls_begins starts, List.map_cons, List.map_cons, ih _ later]
        have taken := takeWhile_trail (c :: text) drops
        rw [List.cons_append] at taken
        rw [taken]
      | false =>
        rw [starts] at same
        rw [findUrls_passed same, findUrls_passed starts, ih _ later]

theorem urlsIn_alone {front trail : List Char} (alone : Alone front target trail)
    (drops : trail.all trailing = true) : urlsIn (front ++ (target ++ trail)) = urlsIn target := by
  rw [urlsIn, findUrls_silent alone.before]
  exact trimmed_findUrls_trail drops false alone.after

end

end Taroai.Agent.UrlReading
