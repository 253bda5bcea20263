import Taroai.Lib.Json
import Taroai.Lib.Whitespace

/-! The strings of a value, keys among them, and what `json.dumps` makes of them: each stands in
the text with its escapes between two quotes, and the text is printable ASCII throughout. -/

namespace Taroai.Json

mutual

def strings : Json → List String
  | .text s => [s]
  | .list xs => stringsEach xs
  | .dict items => stringsItems items
  | .null | .bool _ | .int _ | .float _ => []

def stringsEach : List Json → List String
  | [] => []
  | x :: xs => strings x ++ stringsEach xs

def stringsItems : List (String × Json) → List String
  | [] => []
  | (key, value) :: rest => key :: (strings value ++ stringsItems rest)

end

def escaped (text : List Char) : List Char := text.flatMap escapeChar

def Printable (text : List Char) : Prop := ∀ c ∈ text, 32 ≤ c.toNat ∧ c.toNat ≤ 126

theorem printable_append {a b : List Char} : Printable (a ++ b) ↔ Printable a ∧ Printable b :=
  List.forall_mem_append

theorem printable_cons {c : Char} {a : List Char} :
    Printable (c :: a) ↔ (32 ≤ c.toNat ∧ c.toNat ≤ 126) ∧ Printable a :=
  List.forall_mem_cons

def Plain (c : Char) : Prop := (32 ≤ c.toNat ∧ c.toNat ≤ 126) ∧ c ≠ '"' ∧ c ≠ '\\'

instance : DecidablePred Plain := fun _ => inferInstanceAs (Decidable (_ ∧ _))

theorem escapeChar_plain {c : Char} (plain : Plain c) : escapeChar c = [c] := by
  obtain ⟨printable, quotes, slash⟩ := plain
  have not_control : ∀ d : Char, d.toNat < 32 → c ≠ d := by
    rintro d control rfl
    omega
  rw [escapeChar, if_neg quotes, if_neg slash, if_neg (not_control '\n' (by decide)),
    if_neg (not_control '\r' (by decide)), if_neg (not_control '\t' (by decide)),
    if_neg (by omega), if_neg (by omega), if_pos printable]

theorem escaped_plain {text : List Char} (plain : ∀ c ∈ text, Plain c) : escaped text = text := by
  unfold escaped
  induction text with
  | nil => rfl
  | cons c text ih =>
    obtain ⟨here, rest⟩ := List.forall_mem_cons.mp plain
    rw [List.flatMap_cons, escapeChar_plain here, ih rest]
    rfl

theorem hexDigit_printable (n : Nat) : 32 ≤ (hexDigit n).toNat ∧ (hexDigit n).toNat ≤ 126 := by
  have small : n % 16 < 16 := Nat.mod_lt n (by decide)
  unfold hexDigit
  generalize n % 16 = digit at small
  revert digit
  decide

theorem unicodeEscape_printable (n : Nat) : Printable (unicodeEscape n) := by
  unfold unicodeEscape
  simp only [printable_cons]
  exact ⟨by decide, by decide, hexDigit_printable _, hexDigit_printable _, hexDigit_printable _,
    hexDigit_printable _, fun _ none => nomatch none⟩

theorem escapeChar_printable (c : Char) : Printable (escapeChar c) := by
  unfold escapeChar
  split_ifs with quotes slash newline carriage tab backspace feed printable
  iterate 7 exact forall_mem_of_all (by decide)
  · exact printable_cons.mpr ⟨printable, fun _ none => nomatch none⟩
  · exact unicodeEscape_printable _
  · exact printable_append.mpr ⟨unicodeEscape_printable _, unicodeEscape_printable _⟩

theorem escaped_printable (text : List Char) : Printable (escaped text) := by
  intro c member
  obtain ⟨d, -, among⟩ := List.mem_flatMap.mp member
  exact escapeChar_printable d c among

theorem quote_printable (s : String) : Printable (quote s) :=
  printable_cons.mpr ⟨by decide,
    printable_append.mpr ⟨escaped_printable s.toList, forall_mem_of_all (by decide)⟩⟩

theorem escaped_infix_quote (s : String) : escaped s.toList <:+: quote s := ⟨['"'], ['"'], rfl⟩

section Intercalated

theorem infix_intercalate {sep part : List Char} :
    ∀ {parts : List (List Char)}, part ∈ parts → part <:+: List.intercalate sep parts
  | [only], member => by
    rw [List.mem_singleton] at member
    subst member
    simp [List.intercalate]
  | first :: next :: parts, member => by
    have split : List.intercalate sep (first :: next :: parts) =
        first ++ (sep ++ List.intercalate sep (next :: parts)) := by
      simp [List.intercalate, List.intersperse]
    rw [split]
    rcases List.mem_cons.mp member with rfl | later
    · exact (List.prefix_append _ _).isInfix
    · exact (infix_intercalate later).trans
        ((List.suffix_append _ _).trans (List.suffix_append _ _)).isInfix

theorem intercalate_printable {sep : List Char} (printable_sep : Printable sep) :
    ∀ {parts : List (List Char)}, (∀ part ∈ parts, Printable part) →
      Printable (List.intercalate sep parts)
  | [], _ => fun _ none => nomatch none
  | [part], each => by simpa [List.intercalate] using each part List.mem_cons_self
  | part :: next :: parts, each => by
    have later := intercalate_printable printable_sep
      (fun other among => each other (List.mem_cons_of_mem _ among) :
        ∀ other ∈ next :: parts, Printable other)
    simp only [List.intercalate, List.intersperse, List.flatten_cons] at later ⊢
    exact printable_append.mpr
      ⟨each part List.mem_cons_self, printable_append.mpr ⟨printable_sep, later⟩⟩

end Intercalated

section Documents

variable {style : Style}

theorem mem_arrange {items : List (String × List Char)} {item : String × List Char} :
    item ∈ style.arrange items ↔ item ∈ items := by
  unfold Style.arrange
  split
  · exact (List.perm_insertionSort _ items).mem_iff
  · exact Iff.rfl

theorem item_infix_dumps {items : List (String × Json)} {item : String × List Char}
    (member : item ∈ dumpItems style items) :
    quote item.1 ++ style.colon.toList ++ item.2 <:+: dumps style (.dict items) := by
  have among : quote item.1 ++ style.colon.toList ++ item.2 ∈
      (style.arrange (dumpItems style items)).map
        fun item => quote item.1 ++ style.colon.toList ++ item.2 :=
    List.mem_map.mpr ⟨item, mem_arrange.mpr member, rfl⟩
  unfold dumps
  exact (infix_intercalate among).trans ⟨['{'], ['}'], rfl⟩

mutual

theorem quote_infix_dumps : ∀ (x : Json) {s : String}, s ∈ strings x → quote s <:+: dumps style x
  | .text t, s, member => by
    unfold strings at member
    rw [List.mem_singleton] at member
    unfold dumps
    exact member ▸ List.infix_refl _
  | .list xs, s, member => by
    unfold strings at member
    obtain ⟨part, among, inside⟩ := quote_infix_each xs member
    unfold dumps
    exact inside.trans ((infix_intercalate among).trans ⟨['['], [']'], rfl⟩)
  | .dict items, s, member => by
    unfold strings at member
    obtain ⟨item, among, inside⟩ := quote_infix_items items member
    exact inside.trans (item_infix_dumps among)
  | .null, s, member | .bool _, s, member | .int _, s, member | .float _, s, member => by
    unfold strings at member
    cases member

theorem quote_infix_each : ∀ (xs : List Json) {s : String}, s ∈ stringsEach xs →
    ∃ part ∈ dumpEach style xs, quote s <:+: part
  | [], s, member => by
    unfold stringsEach at member
    cases member
  | x :: xs, s, member => by
    unfold stringsEach at member
    unfold dumpEach
    rcases List.mem_append.mp member with here | later
    · exact ⟨_, List.mem_cons_self, quote_infix_dumps x here⟩
    · obtain ⟨part, among, inside⟩ := quote_infix_each xs later
      exact ⟨part, List.mem_cons_of_mem _ among, inside⟩

theorem quote_infix_items : ∀ (items : List (String × Json)) {s : String}, s ∈ stringsItems items →
    ∃ item ∈ dumpItems style items, quote s <:+: quote item.1 ++ style.colon.toList ++ item.2
  | [], s, member => by
    unfold stringsItems at member
    cases member
  | (key, value) :: rest, s, member => by
    unfold stringsItems at member
    unfold dumpItems
    rcases List.mem_cons.mp member with rfl | member
    · exact ⟨_, List.mem_cons_self, ⟨[], style.colon.toList ++ dumps style value, by simp⟩⟩
    · rcases List.mem_append.mp member with here | later
      · exact ⟨_, List.mem_cons_self,
          (quote_infix_dumps value here).trans (List.suffix_append _ _).isInfix⟩
      · obtain ⟨item, among, inside⟩ := quote_infix_items rest later
        exact ⟨item, List.mem_cons_of_mem _ among, inside⟩

end

theorem int_printable (n : Int) : Printable (toString n).toList := by
  have digits : ∀ m : Nat, Printable m.repr.toList := by
    intro m c among
    rw [Nat.toList_repr] at among
    have digit := Nat.isDigit_of_mem_toDigits (by decide) (by decide) among
    simp only [Char.isDigit, ge_iff_le, Bool.and_eq_true, decide_eq_true_eq] at digit
    have low : 48 ≤ c.toNat := digit.1
    have high : c.toNat ≤ 57 := digit.2
    omega
  change Printable (Int.repr n).toList
  cases n with
  | ofNat n => exact digits n
  | negSucc n =>
    rw [Int.repr, String.toList_append]
    exact printable_append.mpr ⟨forall_mem_of_all (by decide), digits _⟩

structure Style.Printed (style : Style) : Prop where
  comma : Printable style.comma.toList
  colon : Printable style.colon.toList
  float : ∀ q, Printable (style.float q).toList

mutual

theorem dumps_printable (printed : style.Printed) : ∀ x : Json, Printable (dumps style x)
  | .null => by unfold dumps; exact forall_mem_of_all (by decide)
  | .bool true => by unfold dumps; exact forall_mem_of_all (by decide)
  | .bool false => by unfold dumps; exact forall_mem_of_all (by decide)
  | .int n => by unfold dumps; exact int_printable n
  | .float q => by unfold dumps; exact printed.float q
  | .text s => by unfold dumps; exact quote_printable s
  | .list xs => by
    have parts := dumpEach_printable printed xs
    unfold dumps
    exact printable_cons.mpr ⟨by decide, printable_append.mpr
      ⟨intercalate_printable printed.comma parts, forall_mem_of_all (by decide)⟩⟩
  | .dict items => by
    have parts := dumpItems_printable printed items
    have each : ∀ part ∈ (style.arrange (dumpItems style items)).map
        fun item => quote item.1 ++ style.colon.toList ++ item.2, Printable part := by
      intro part member
      obtain ⟨item, among, rfl⟩ := List.mem_map.mp member
      exact printable_append.mpr ⟨printable_append.mpr ⟨quote_printable _, printed.colon⟩,
        parts item (mem_arrange.mp among)⟩
    unfold dumps
    exact printable_cons.mpr ⟨by decide, printable_append.mpr
      ⟨intercalate_printable printed.comma each, forall_mem_of_all (by decide)⟩⟩

theorem dumpEach_printable (printed : style.Printed) :
    ∀ xs : List Json, ∀ part ∈ dumpEach style xs, Printable part
  | [] => fun _ none => nomatch none
  | x :: xs => by
    have here := dumps_printable printed x
    have rest := dumpEach_printable printed xs
    unfold dumpEach
    exact List.forall_mem_cons.mpr ⟨here, rest⟩

theorem dumpItems_printable (printed : style.Printed) :
    ∀ items : List (String × Json), ∀ item ∈ dumpItems style items, Printable item.2
  | [] => fun _ none => nomatch none
  | (key, value) :: rest => by
    have here := dumps_printable printed value
    have others := dumpItems_printable printed rest
    unfold dumpItems
    exact List.forall_mem_cons.mpr ⟨here, others⟩

end

end Documents

end Taroai.Json
