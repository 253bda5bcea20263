import Mathlib.Data.List.Infix

/-! Shell patterns as Python's `fnmatch` reads them: `*`, `?`, `[seq]` and `[!seq]`. -/

namespace Taroai.Glob

inductive ClassItem where
  | single (c : Char)
  | range (first last : Char)
deriving DecidableEq

def ClassItem.has : ClassItem → Char → Bool
  | .single c, d => c == d
  | .range first last, d => first ≤ d && d ≤ last

structure CharClass where
  negated : Bool
  items : List ClassItem
deriving DecidableEq

def CharClass.has (k : CharClass) (d : Char) : Bool := k.items.any (·.has d) != k.negated

def classItems : List Char → List ClassItem
  | first :: '-' :: last :: rest =>
    if last < first then classItems rest else .range first last :: classItems rest
  | c :: rest => .single c :: classItems rest
  | [] => []

/-- The class of a text between brackets. Backward ranges are removed before the `!` is looked
for, so one that stands behind such a range negates too. -/
def classOf : List Char → CharClass
  | '!' :: rest => { negated := true, items := classItems rest }
  | stuff =>
    match classItems stuff with
    | .single '!' :: rest => { negated := true, items := rest }
    | .range '!' last :: rest => { negated := true, items := .single '-' :: .single last :: rest }
    | items => { negated := false, items }

inductive Token where
  | char (c : Char)
  | anyChar
  | star
  | oneOf (k : CharClass)
deriving DecidableEq

def Token.accepts : Token → Char → Bool
  | .char c, d => c == d
  | .anyChar, _ => true
  | .star, _ => false
  | .oneOf k, d => k.has d

/-- The token stands for one character, and there is at most one that it accepts. -/
def Token.Single (t : Token) : Prop :=
  t ≠ .star ∧ ∀ c d, t.accepts c = true → t.accepts d = true → c = d

/-- Where the bracket that opens a class is closed; one directly behind `[` or `[!` does not
close it. -/
def closing : List Char → Option Nat
  | '!' :: ']' :: cs => (cs.findIdx? (· == ']')).map (· + 2)
  | '!' :: cs => (cs.findIdx? (· == ']')).map (· + 1)
  | ']' :: cs => (cs.findIdx? (· == ']')).map (· + 1)
  | cs => cs.findIdx? (· == ']')

/-- The tokens behind the next `skip` characters, which belong to the last class. -/
def tokensAfter : Nat → List Char → List Token
  | _, [] => []
  | skip + 1, _ :: cs => tokensAfter skip cs
  | 0, c :: cs =>
    if c = '*' then .star :: tokensAfter 0 cs
    else if c = '?' then .anyChar :: tokensAfter 0 cs
    else if c = '[' then
      match closing cs with
      | some n => .oneOf (classOf (cs.take n)) :: tokensAfter (n + 1) cs
      | none => .char '[' :: tokensAfter 0 cs
    else .char c :: tokensAfter 0 cs

def tokens (pattern : List Char) : List Token := tokensAfter 0 pattern

def matchTokens : List Token → List Char → Bool
  | [], cs => cs.isEmpty
  | .star :: ts, cs => cs.tails.any (matchTokens ts)
  | _ :: _, [] => false
  | t :: ts, c :: cs => t.accepts c && matchTokens ts cs

/-- `fnmatch.fnmatchcase` -/
def fnmatchcase (name pattern : List Char) : Bool := matchTokens (tokens pattern) name

theorem closing_lt {cs : List Char} {n : Nat} (closed : closing cs = some n) : n < cs.length := by
  have inside : ∀ {ds : List Char} {m k : Nat},
      (ds.findIdx? (· == ']')).map (· + k) = some m → m < ds.length + k := by
    intro ds m k found
    obtain ⟨i, at_i, rfl⟩ := Option.map_eq_some_iff.mp found
    have := (List.findIdx?_eq_some_iff_getElem.mp at_i).1
    omega
  unfold closing at closed
  split at closed
  · have := inside closed
    simp only [List.length_cons]
    omega
  · have := inside closed
    simp only [List.length_cons]
    omega
  · have := inside closed
    simp only [List.length_cons]
    omega
  · exact (List.findIdx?_eq_some_iff_getElem.mp closed).1

theorem closing_append (cs : List Char) {rest : List Char} (unclosed : ']' ∉ rest) :
    closing (cs ++ rest) = closing cs := by
  have none_rest : rest.findIdx? (· == ']') = none := by
    rw [List.findIdx?_eq_none_iff]
    intro c c_in
    simpa using fun same : c = ']' => unclosed (same ▸ c_in)
  have shift : ∀ ds : List Char,
      (ds ++ rest).findIdx? (· == ']') = ds.findIdx? (· == ']') := by
    intro ds
    rw [List.findIdx?_append, none_rest]
    simp
  have head_free : ∀ {c ds}, rest = c :: ds → c ≠ ']' ∧ ds.findIdx? (· == ']') = none := by
    rintro c ds rfl
    rw [List.findIdx?_cons] at none_rest
    by_cases closes : c = ']'
    · simp [closes] at none_rest
    · exact ⟨closes, by simpa [closes] using none_rest⟩
  cases cs with
  | nil =>
    cases rest with
    | nil => rfl
    | cons c ds =>
      obtain ⟨not_closing, none_ds⟩ := head_free rfl
      by_cases bang : c = '!'
      · subst bang
        cases ds with
        | nil => rfl
        | cons d ds =>
          rw [List.findIdx?_cons] at none_ds
          by_cases closes : d = ']'
          · simp [closes] at none_ds
          · simp_all [closing]
      · rw [List.nil_append, closing]
        · exact none_rest
        all_goals simp_all
  | cons c cs =>
    by_cases bang : c = '!'
    · subst bang
      cases cs with
      | nil =>
        cases rest with
        | nil => rfl
        | cons d ds =>
          have not_closing := (head_free rfl).1
          simp_all [closing]
      | cons d cs =>
        by_cases closes : d = ']'
        · simp [closes, closing, shift]
        · have := shift (d :: cs)
          simp_all [closing]
    · by_cases closes : c = ']'
      · simp [closes, closing, shift]
      · have := shift (c :: cs)
        rw [List.cons_append] at this ⊢
        rw [closing, closing, this]
        all_goals simp_all

theorem tokensAfter_append (cs : List Char) {rest : List Char} (unclosed : ']' ∉ rest) :
    ∀ skip ≤ cs.length, tokensAfter skip (cs ++ rest) = tokensAfter skip cs ++ tokens rest := by
  induction cs with
  | nil =>
    intro skip none_skipped
    obtain rfl : skip = 0 := Nat.le_zero.mp none_skipped
    rfl
  | cons c cs ih =>
    intro skip inside
    cases skip with
    | succ skip => exact ih skip (Nat.le_of_succ_le_succ inside)
    | zero =>
      have next := ih 0 (Nat.zero_le _)
      simp only [List.cons_append, tokensAfter, closing_append cs unclosed]
      by_cases is_star : c = '*'
      · simp [is_star, next]
      by_cases is_any : c = '?'
      · simp [is_any, next]
      by_cases opens : c = '['
      · subst opens
        cases closed : closing cs with
        | none => simp [next]
        | some n =>
          have within := closing_lt closed
          simp [List.take_append_of_le_length (Nat.le_of_lt within), ih (n + 1) within]
      · simp [is_star, is_any, opens, next]

theorem tokens_append (cs : List Char) {rest : List Char} (unclosed : ']' ∉ rest) :
    tokens (cs ++ rest) = tokens cs ++ tokens rest :=
  tokensAfter_append cs unclosed 0 (Nat.zero_le _)

theorem star_notMem_tokensAfter {cs : List Char} (no_star : '*' ∉ cs) :
    ∀ skip, Token.star ∉ tokensAfter skip cs := by
  induction cs with
  | nil => intro skip; simp [tokensAfter]
  | cons c cs ih =>
    have later : '*' ∉ cs := fun among => no_star (List.mem_cons_of_mem _ among)
    have not_star : c ≠ '*' := fun same => no_star (same ▸ List.mem_cons_self)
    intro skip
    cases skip with
    | succ skip => exact ih later skip
    | zero =>
      rw [tokensAfter, if_neg not_star]
      split
      · simpa using ih later 0
      split
      · split
        · simpa using ih later _
        · simpa using ih later 0
      · simpa using ih later 0

theorem matchTokens_star (ts : List Token) (cs : List Char) :
    matchTokens (.star :: ts) cs = true ↔
      ∃ skipped rest, cs = skipped ++ rest ∧ matchTokens ts rest = true := by
  rw [matchTokens, List.any_eq_true]
  constructor
  · rintro ⟨rest, among, found⟩
    obtain ⟨skipped, rfl⟩ := (List.mem_tails _ _).mp among
    exact ⟨skipped, rest, rfl, found⟩
  · rintro ⟨skipped, rest, rfl, found⟩
    exact ⟨rest, (List.mem_tails _ _).mpr (List.suffix_append _ _), found⟩

theorem matchTokens_cons {t : Token} (one : t ≠ .star) (ts : List Token) (cs : List Char) :
    matchTokens (t :: ts) cs = true ↔
      ∃ c rest, cs = c :: rest ∧ t.accepts c = true ∧ matchTokens ts rest = true := by
  cases cs with
  | nil => cases t <;> simp_all [matchTokens]
  | cons c rest => cases t <;> simp_all [matchTokens]

theorem matchTokens_append (ts us : List Token) (cs : List Char) :
    matchTokens (ts ++ us) cs = true ↔
      ∃ front back, cs = front ++ back ∧ matchTokens ts front = true ∧
        matchTokens us back = true := by
  induction ts generalizing cs with
  | nil =>
    constructor
    · exact fun found => ⟨[], cs, rfl, rfl, found⟩
    · rintro ⟨front, back, rfl, empty, found⟩
      obtain rfl : front = [] := List.isEmpty_iff.mp empty
      exact found
  | cons t ts ih =>
    rw [List.cons_append]
    by_cases is_star : t = .star
    · subst is_star
      rw [matchTokens_star]
      constructor
      · rintro ⟨skipped, rest, rfl, found⟩
        obtain ⟨front, back, rfl, in_front, in_back⟩ := (ih rest).mp found
        exact ⟨skipped ++ front, back, by simp,
          (matchTokens_star ts _).mpr ⟨skipped, front, rfl, in_front⟩, in_back⟩
      · rintro ⟨front, back, rfl, in_front, in_back⟩
        obtain ⟨skipped, rest, rfl, found⟩ := (matchTokens_star ts front).mp in_front
        exact ⟨skipped, rest ++ back, by simp, (ih _).mpr ⟨rest, back, rfl, found, in_back⟩⟩
    · rw [matchTokens_cons is_star]
      constructor
      · rintro ⟨c, rest, rfl, accepted, found⟩
        obtain ⟨front, back, rfl, in_front, in_back⟩ := (ih rest).mp found
        exact ⟨c :: front, back, rfl,
          (matchTokens_cons is_star ts _).mpr ⟨c, front, rfl, accepted, in_front⟩, in_back⟩
      · rintro ⟨front, back, rfl, in_front, in_back⟩
        obtain ⟨c, rest, rfl, accepted, found⟩ := (matchTokens_cons is_star ts front).mp in_front
        exact ⟨c, rest ++ back, rfl, accepted, (ih _).mpr ⟨rest, back, rfl, found, in_back⟩⟩

theorem matchTokens_single {ts : List Token} (single : ∀ t ∈ ts, t.Single) :
    ∀ {a b}, matchTokens ts a = true → matchTokens ts b = true → a = b := by
  induction ts with
  | nil =>
    intro a b of_a of_b
    rw [List.isEmpty_iff.mp of_a, List.isEmpty_iff.mp of_b]
  | cons t ts ih =>
    intro a b of_a of_b
    obtain ⟨one, at_most⟩ := single t List.mem_cons_self
    obtain ⟨c, a, rfl, accepts_c, of_a⟩ := (matchTokens_cons one ts _).mp of_a
    obtain ⟨d, b, rfl, accepts_d, of_b⟩ := (matchTokens_cons one ts _).mp of_b
    rw [at_most c d accepts_c accepts_d,
      ih (fun u among => single u (List.mem_cons_of_mem _ among)) of_a of_b]

def plain (text : List Char) : List Token := text.map .char

theorem matchTokens_plain (text cs : List Char) :
    matchTokens (plain text) cs = true ↔ cs = text := by
  induction text generalizing cs with
  | nil => exact List.isEmpty_iff
  | cons c text ih =>
    rw [plain, List.map_cons, matchTokens_cons (by simp)]
    constructor
    · rintro ⟨d, rest, rfl, accepted, found⟩
      rw [← (ih rest).mp found, ← beq_iff_eq.mp accepted]
    · rintro rfl
      exact ⟨c, text, rfl, beq_self_eq_true c, (ih text).mpr rfl⟩

/-- The tokens before the first plain occurrence of a text; all when there is none. -/
def beforePlain (mark : List Char) : List Token → List Token
  | [] => []
  | t :: ts => if plain mark <+: t :: ts then [] else t :: beforePlain mark ts

theorem beforePlain_eq_or (mark : List Char) (ts : List Token) :
    beforePlain mark ts = ts ∨ ∃ back, ts = beforePlain mark ts ++ (plain mark ++ back) := by
  induction ts with
  | nil => exact .inl rfl
  | cons t ts ih =>
    rw [beforePlain]
    by_cases starts : plain mark <+: t :: ts
    · rw [if_pos starts]
      obtain ⟨back, found⟩ := starts
      exact .inr ⟨back, found.symm⟩
    · rw [if_neg starts]
      cases ih with
      | inl whole => exact .inl (congrArg (t :: ·) whole)
      | inr found =>
        obtain ⟨back, found⟩ := found
        exact .inr ⟨back, congrArg (t :: ·) found⟩

theorem beforePlain_subset (mark : List Char) (ts back : List Token) {t : Token}
    (among : t ∈ beforePlain mark (ts ++ (plain mark ++ back))) : mark = [] ∨ t ∈ ts := by
  induction ts with
  | nil =>
    cases mark with
    | nil => exact .inl rfl
    | cons c mark =>
      rw [List.nil_append, plain, List.map_cons, List.cons_append, beforePlain,
        if_pos ⟨back, rfl⟩] at among
      cases among
  | cons u ts ih =>
    rw [List.cons_append, beforePlain] at among
    split at among
    · cases among
    · cases List.mem_cons.mp among with
      | inl same => exact .inr (same ▸ List.mem_cons_self)
      | inr later => exact (ih later).imp id (List.mem_cons_of_mem _)

end Taroai.Glob
