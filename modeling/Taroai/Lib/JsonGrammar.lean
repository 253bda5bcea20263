import Taroai.Lib.JsonReading

/-! JSON texts by their grammar, blanks and all, and texts whose braces are balanced but for those
within strings. Escapes and numerals are taken wider than JSON has them. -/

namespace Taroai.Json

inductive StringBody : List Char → Prop
  | empty : StringBody []
  | char {c : Char} {body : List Char} (plain : c ≠ '"' ∧ c ≠ '\\') (later : StringBody body) :
      StringBody (c :: body)
  | escape (c : Char) {body : List Char} (later : StringBody body) : StringBody ('\\' :: c :: body)

def Blank (gap : List Char) : Prop := gap.all blank = true

def Scalar (s : List Char) : Prop := s ≠ [] ∧ s.all (fun c => c.isAlpha || numberChar c) = true

def KeyText (s : List Char) : Prop :=
  ∃ before body after, Blank before ∧ StringBody body ∧ Blank after ∧
    s = before ++ '"' :: (body ++ '"' :: after)

def memberText (member : List Char × List Char) : List Char := member.1 ++ ':' :: member.2

/-- The blanks that an empty list or dictionary has inside come first. -/
inductive ValueText : List Char → Prop
  | scalar {s : List Char} (scalar : Scalar s) : ValueText s
  | string {body : List Char} (body_ok : StringBody body) : ValueText ('"' :: (body ++ ['"']))
  | array {gap : List Char} (blank : Blank gap) (parts : List (List Char))
      (each : ∀ part ∈ parts, ValueText part) :
      ValueText ('[' :: (gap ++ List.intercalate [','] parts ++ [']']))
  | object {gap : List Char} (blank : Blank gap) (members : List (List Char × List Char))
      (keys : ∀ member ∈ members, KeyText member.1)
      (values : ∀ member ∈ members, ValueText member.2) :
      ValueText ('{' :: (gap ++ List.intercalate [','] (members.map memberText) ++ ['}']))
  | spaced {before s after : List Char} (blank_before : Blank before) (value : ValueText s)
      (blank_after : Blank after) : ValueText (before ++ s ++ after)

def ObjectText (s : List Char) : Prop :=
  ∃ (gap : List Char) (members : List (List Char × List Char)), Blank gap ∧
    (∀ member ∈ members, KeyText member.1) ∧ (∀ member ∈ members, ValueText member.2) ∧
    s = '{' :: (gap ++ List.intercalate [','] (members.map memberText) ++ ['}'])

/-- Every brace has its counterpart, those within strings apart. -/
inductive Balanced : List Char → Prop
  | empty : Balanced []
  | char {c : Char} {rest : List Char} (plain : c ≠ '"' ∧ c ≠ '{' ∧ c ≠ '}')
      (later : Balanced rest) : Balanced (c :: rest)
  | string {body rest : List Char} (body_ok : StringBody body) (later : Balanced rest) :
      Balanced ('"' :: (body ++ '"' :: rest))
  | braces {inside rest : List Char} (inner : Balanced inside) (later : Balanced rest) :
      Balanced ('{' :: (inside ++ '}' :: rest))

def BalancedObject (s : List Char) : Prop := ∃ inside, Balanced inside ∧ s = '{' :: (inside ++ ['}'])

theorem blank_nil : Blank [] := rfl

theorem StringBody.append {a b : List Char} (first : StringBody a) (second : StringBody b) :
    StringBody (a ++ b) := by
  induction first with
  | empty => exact second
  | char plain _ ih => exact .char plain ih
  | escape c _ ih => exact .escape c ih

theorem Balanced.append {a b : List Char} (first : Balanced a) (second : Balanced b) :
    Balanced (a ++ b) := by
  induction first with
  | empty => exact second
  | char plain _ ih => exact .char plain ih
  | string body_ok _ ih =>
    rw [List.cons_append, List.append_assoc, List.cons_append]
    exact .string body_ok ih
  | braces inner _ _ ih =>
    rw [List.cons_append, List.append_assoc, List.cons_append]
    exact .braces inner ih

theorem Balanced.of_plain {s : List Char} (plain : ∀ c ∈ s, c ≠ '"' ∧ c ≠ '{' ∧ c ≠ '}') :
    Balanced s := by
  induction s with
  | nil => exact .empty
  | cons c s ih =>
    rw [List.forall_mem_cons] at plain
    exact .char plain.1 (ih plain.2)

theorem Balanced.of_all {p : Char → Bool} (quote : p '"' = false) (opening : p '{' = false)
    (closing : p '}' = false) {s : List Char} (all : s.all p = true) : Balanced s := by
  refine Balanced.of_plain fun c among => ?_
  have here : p c = true := List.all_eq_true.mp all c among
  refine ⟨?_, ?_, ?_⟩ <;> rintro rfl
  · exact Bool.false_ne_true (quote ▸ here)
  · exact Bool.false_ne_true (opening ▸ here)
  · exact Bool.false_ne_true (closing ▸ here)

theorem Blank.balanced {gap : List Char} (gap_blank : Blank gap) : Balanced gap :=
  Balanced.of_all (by decide) (by decide) (by decide) gap_blank

theorem KeyText.balanced {s : List Char} (key : KeyText s) : Balanced s := by
  obtain ⟨before, body, after, blank_before, body_ok, blank_after, rfl⟩ := key
  exact blank_before.balanced.append (.string body_ok blank_after.balanced)

theorem balanced_intercalate {parts : List (List Char)} (each : ∀ part ∈ parts, Balanced part) :
    Balanced (List.intercalate [','] parts) := by
  have comma : ∀ {s}, Balanced s → Balanced (',' :: s) := fun later => .char (by decide) later
  cases parts with
  | nil => exact .empty
  | cons part parts =>
    rw [List.forall_mem_cons] at each
    rw [intercalate_cons]
    refine each.1.append ?_
    have others := each.2
    clear each
    induction parts with
    | nil => exact .empty
    | cons next parts ih =>
      rw [List.forall_mem_cons] at others
      rw [List.flatMap_cons]
      exact (comma others.1).append (ih others.2)

theorem balanced_members {members : List (List Char × List Char)}
    (keys : ∀ member ∈ members, KeyText member.1)
    (values : ∀ member ∈ members, Balanced member.2) :
    Balanced (List.intercalate [','] (members.map memberText)) := by
  refine balanced_intercalate fun part among => ?_
  obtain ⟨member, listed, rfl⟩ := List.mem_map.mp among
  exact (keys member listed).balanced.append (.char (by decide) (values member listed))

theorem ValueText.balanced {s : List Char} (value : ValueText s) : Balanced s := by
  induction value with
  | scalar scalar => exact Balanced.of_all (by decide) (by decide) (by decide) scalar.2
  | string body_ok => exact .string body_ok .empty
  | array gap_blank parts _ ih =>
    have inner := gap_blank.balanced.append (balanced_intercalate ih)
    exact .char (by decide) (inner.append (.char (by decide) .empty))
  | object gap_blank members keys _ ih =>
    exact .braces (gap_blank.balanced.append (balanced_members keys ih)) .empty
  | spaced blank_before _ blank_after ih =>
    exact (blank_before.balanced.append ih).append blank_after.balanced

theorem ObjectText.balanced {s : List Char} (object : ObjectText s) : BalancedObject s := by
  obtain ⟨gap, members, gap_blank, keys, values, rfl⟩ := object
  exact ⟨_, gap_blank.balanced.append (balanced_members keys fun member listed =>
    (values member listed).balanced), rfl⟩

/-! What `json.dumps` writes. -/

theorem escapeUnicode_body (c : Char) : StringBody (escapeUnicode c) := by
  have hex : ∀ n, hexDigit n ≠ '"' ∧ hexDigit n ≠ '\\' := by
    intro n
    have small : n % 16 < 16 := Nat.mod_lt n (by decide)
    have checked : ∀ k < 16, Nat.digitChar k ≠ '"' ∧ Nat.digitChar k ≠ '\\' := by decide
    exact checked _ small
  have pair : ∀ d, StringBody ['\\', d] := fun d => .escape d .empty
  have unicode : ∀ n, StringBody (unicodeEscape n) := fun n =>
    .escape 'u' (.char (hex _) (.char (hex _) (.char (hex _) (.char (hex _) .empty))))
  unfold escapeUnicode
  split_ifs with quote slash
  · exact pair _
  · exact pair _
  · exact pair _
  · exact pair _
  · exact pair _
  · exact pair _
  · exact pair _
  · exact unicode _
  · exact .char ⟨quote, slash⟩ .empty

theorem escaped_body (s : List Char) : StringBody (s.flatMap escapeUnicode) := by
  induction s with
  | nil => exact .empty
  | cons c s ih =>
    rw [List.flatMap_cons]
    exact (escapeUnicode_body c).append ih

theorem spaced_value {s : List Char} (value : ValueText s) : ValueText (' ' :: s) := by
  have blanks : Blank [' '] := rfl
  have spaced := ValueText.spaced blanks value blank_nil
  rwa [List.append_nil] at spaced

end Taroai.Json
