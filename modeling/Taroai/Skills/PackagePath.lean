import Mathlib
import Taroai.Lib.PosixPath

/-! Paths within a skill package: `normalize_package_path` of `skills/package.py`. NFC is a
parameter, of which the two separators take no part; the texts that the errors quote are kept as
they came. -/

namespace Taroai.SkillPackages

open PosixPath

/-- `unicodedata.normalize("NFC", ·)`. -/
abbrev Nfc := NormalForm ['/', '\\']

inductive PathError where
  | empty
  | nul
  | absolute (rawPath : String)
  | unsafePath (rawPath : String)
  | controlCharacter (rawPath : String)
  | ambiguousSegment (rawPath : String)
  | tooLong
deriving DecidableEq, Repr

def asciiControl (c : Char) : Bool := c.toNat < 32 || c.toNat = 127

/-- `part.rstrip(". ")` -/
def rstripDots (part : List Char) : List Char := part.rdropWhile fun c => c = '.' || c = ' '

def segmentError (rawPath : String) (part : List Char) : Option PathError :=
  if part.any asciiControl then some (.controlCharacter rawPath)
  else if rstripDots part ≠ part then some (.ambiguousSegment rawPath)
  else none

/-- `_DRIVE_RE.match` -/
def driveLike : List Char → Bool
  | letter :: ':' :: _ => letter.isAlpha
  | _ => false

/-- `unicodedata.normalize("NFC", raw_path).replace("\\", "/")` -/
def slashed (nfc : Nfc) (rawPath : List Char) : List Char :=
  (nfc.form rawPath).map fun c => if c = '\\' then '/' else c

def normalizePackagePath (nfc : Nfc) (rawPath : String) : Except PathError String :=
  if rawPath = "" then .error .empty
  else if rawPath.toList.contains '\x00' then .error .nul
  else
    let path := slashed nfc rawPath.toList
    if path.head? = some '/' || driveLike path then .error (.absolute rawPath)
    else
      let parts := segments path
      if parts.any fun part => part = [] || part = ['.'] || part = ['.', '.'] then
        .error (.unsafePath rawPath)
      else
        match parts.findSome? (segmentError rawPath) with
        | some e => .error e
        | none =>
          -- `PurePosixPath` has nothing to drop from such parts
          let normalized := ['/'].intercalate parts
          if 1000 < normalized.length then .error .tooLong else .ok (String.ofList normalized)

structure SafeSegment (part : List Char) : Prop where
  named : Named part
  no_control : ∀ c ∈ part, asciiControl c = false
  stripped : rstripDots part = part

structure SafePath (path : List Char) : Prop where
  no_drive : driveLike path = false
  segments : ∀ part ∈ segments path, SafeSegment part
  short : path.length ≤ 1000

section Segments

theorem segmentError_eq_none {rawPath : String} {part : List Char} :
    segmentError rawPath part = none ↔
      (∀ c ∈ part, asciiControl c = false) ∧ rstripDots part = part := by
  unfold segmentError
  split_ifs with control trailing <;> simp_all

theorem rstripDots_eq_self {part : List Char} :
    rstripDots part = part ↔ ∀ c ∈ part.getLast?, c ≠ '.' ∧ c ≠ ' ' := by
  unfold rstripDots
  rw [List.rdropWhile_eq_self_iff]
  constructor
  · intro kept c last
    obtain ⟨nonempty, rfl⟩ := List.mem_getLast?_eq_getLast last
    simpa using kept nonempty
  · intro kept nonempty
    simpa using kept _ (List.getLast?_eq_getLast_of_ne_nil nonempty)

theorem SafePath.relative {path : List Char} (safe : SafePath path) : path.head? ≠ some '/' := by
  intro first
  cases path with
  | nil => cases first
  | cons c rest =>
    obtain rfl := Option.some.inj first
    have parts : PosixPath.segments ('/' :: rest) = [] :: PosixPath.segments rest := by
      simp [PosixPath.segments, List.splitOn_cons_eq_if_modifyHead]
    exact (safe.segments [] (parts ▸ List.mem_cons_self)).named.1 rfl

theorem SafePath.nonempty {path : List Char} (safe : SafePath path) : path ≠ [] := by
  rintro rfl
  exact (safe.segments [] (by simp [PosixPath.segments])).named.1 rfl

theorem SafePath.no_control {path : List Char} (safe : SafePath path) :
    ∀ c ∈ path, asciiControl c = false := by
  intro c among
  rcases mem_segments among with rfl | ⟨part, listed, inside⟩
  · rfl
  · exact (safe.segments part listed).no_control c inside

end Segments

section Normalizer

variable {nfc : Nfc} {rawPath path : String}

theorem slashed_idempotent (s : List Char) : slashed nfc (slashed nfc s) = slashed nfc s := by
  have backslash_inert : '\\' ∈ ['/', '\\'] := by simp
  have replaced := nfc.form_replace backslash_inert List.mem_cons_self (nfc.form s)
  unfold slashed
  rw [replaced, nfc.idempotent, List.map_map]
  refine List.map_congr_left fun c _ => ?_
  by_cases backslash : c = '\\' <;> simp [backslash]

/-- Accepted are the texts whose slashed normal form is a safe path, and it is what they become. -/
theorem normalizePackagePath_ok_iff : normalizePackagePath nfc rawPath = .ok path ↔
    rawPath ≠ "" ∧ '\x00' ∉ rawPath.toList ∧ path.toList = slashed nfc rawPath.toList ∧
      SafePath path.toList := by
  have joined : ['/'].intercalate (PosixPath.segments (slashed nfc rawPath.toList)) =
      slashed nfc rawPath.toList := List.intercalate_splitOn '/'
  unfold normalizePackagePath
  dsimp only
  rw [joined]
  generalize slashed nfc rawPath.toList = text
  constructor
  · intro accepted
    cases failing : (PosixPath.segments text).findSome? (segmentError rawPath) with
    | some e =>
      rw [failing] at accepted
      split_ifs at accepted
    | none =>
      rw [failing] at accepted
      dsimp only at accepted
      split_ifs at accepted with empty nul absolute dotted long
      obtain rfl := Except.ok.inj accepted
      rw [String.toList_ofList]
      rw [Bool.or_eq_true, decide_eq_true_iff, not_or, Bool.not_eq_true] at absolute
      refine ⟨empty, by simpa using nul, rfl, absolute.2, fun part listed => ?_, by omega⟩
      obtain ⟨no_control, stripped⟩ :=
        segmentError_eq_none.mp (List.findSome?_eq_none_iff.mp failing part listed)
      have named : ¬_ := fun named => dotted (List.any_eq_true.mpr ⟨part, listed, named⟩)
      simp only [Bool.or_eq_true, decide_eq_true_iff, not_or] at named
      exact ⟨⟨named.1.1, named.1.2, named.2⟩, no_control, stripped⟩
  · rintro ⟨nonempty, no_nul, rfl, safe⟩
    rw [if_neg nonempty, if_neg (by simpa using no_nul), if_neg, if_neg]
    · have passing : (PosixPath.segments path.toList).findSome? (segmentError rawPath) = none := by
        refine List.findSome?_eq_none_iff.mpr fun part listed => ?_
        have part_safe := safe.segments part listed
        exact segmentError_eq_none.mpr ⟨part_safe.no_control, part_safe.stripped⟩
      have short : ¬1000 < path.toList.length := Nat.not_lt.mpr safe.short
      rw [passing]
      dsimp only
      rw [if_neg short, String.ofList_toList]
    · intro dotted
      obtain ⟨part, listed, named⟩ := List.any_eq_true.mp dotted
      simp only [Bool.or_eq_true, decide_eq_true_iff] at named
      obtain ⟨filled, not_dot, not_dots⟩ := (safe.segments part listed).named
      rcases named with (rfl | rfl) | rfl
      · exact filled rfl
      · exact not_dot rfl
      · exact not_dots rfl
    · simp [safe.relative, safe.no_drive]

theorem SafePath.of_accepted (accepted : normalizePackagePath nfc rawPath = .ok path) :
    SafePath path.toList := (normalizePackagePath_ok_iff.mp accepted).2.2.2

theorem normalizePackagePath_again (accepted : normalizePackagePath nfc rawPath = .ok path) :
    normalizePackagePath nfc path = .ok path := by
  obtain ⟨-, -, slashed_path, safe⟩ := normalizePackagePath_ok_iff.mp accepted
  refine normalizePackagePath_ok_iff.mpr ⟨?_, fun nul => ?_, ?_, safe⟩
  · rintro rfl
    exact safe.nonempty rfl
  · exact absurd (safe.no_control _ nul) (by decide)
  · rw [slashed_path, slashed_idempotent]

def Acceptable (nfc : Nfc) (rawPath : String) : Prop :=
  rawPath ≠ "" ∧ '\x00' ∉ rawPath.toList ∧ SafePath (slashed nfc rawPath.toList)

theorem refused_iff : (∃ e, normalizePackagePath nfc rawPath = .error e) ↔
    ¬Acceptable nfc rawPath := by
  constructor
  · rintro ⟨e, refused⟩ ⟨nonempty, no_nul, safe⟩
    have accepted : normalizePackagePath nfc rawPath =
        .ok (String.ofList (slashed nfc rawPath.toList)) :=
      normalizePackagePath_ok_iff.mpr ⟨nonempty, no_nul, String.toList_ofList, by
        rwa [String.toList_ofList]⟩
    rw [accepted] at refused
    cases refused
  · intro unacceptable
    cases outcome : normalizePackagePath nfc rawPath with
    | error e => exact ⟨e, rfl⟩
    | ok path =>
      obtain ⟨nonempty, no_nul, same, safe⟩ := normalizePackagePath_ok_iff.mp outcome
      exact absurd ⟨nonempty, no_nul, same ▸ safe⟩ unacceptable

end Normalizer

section Tokens

theorem alphanum_range {c : Char} (known : c.isAlphanum = true) :
    48 ≤ c.toNat ∧ c.toNat ≤ 122 ∧ c.toNat ≠ 58 ∧ c.toNat ≠ 92 := by
  have code : c.val.toNat = c.toNat := rfl
  simp only [Char.isAlphanum, Char.isAlpha, Char.isUpper, Char.isLower, Char.isDigit,
    Bool.or_eq_true, Bool.and_eq_true, decide_eq_true_iff, ge_iff_le, UInt32.le_iff_toNat_le,
    code] at known
  simp at known
  omega

def tokenChar (c : Char) : Bool := c.isAlphanum || c ∈ ['.', '+', '_', '-']

theorem tokenChar_range {c : Char} (known : tokenChar c = true) :
    43 ≤ c.toNat ∧ c.toNat ≤ 122 ∧ c.toNat ≠ 47 ∧ c.toNat ≠ 58 ∧ c.toNat ≠ 92 := by
  rw [tokenChar, Bool.or_eq_true, decide_eq_true_iff] at known
  rcases known with known | among
  · have := alphanum_range known
    omega
  · simp only [List.mem_cons, List.not_mem_nil, or_false] at among
    rcases among with rfl | rfl | rfl | rfl <;> decide

theorem ne_of_toNat {c d : Char} (apart : c.toNat ≠ d.toNat) : c ≠ d := fun same =>
  apart (congrArg Char.toNat same)

/-- A text of such characters that begins with a letter or digit is a path unless it ends in a dot. -/
theorem normalizePackagePath_token {nfc : Nfc} {text path : String}
    (first : ∃ c ∈ text.toList.head?, c.isAlphanum = true)
    (chars : ∀ c ∈ text.toList, tokenChar c = true) (short : text.toList.length ≤ 1000) :
    normalizePackagePath nfc text = .ok path ↔ path = text ∧ text.toList.getLast? ≠ some '.' := by
  have range {c : Char} (among : c ∈ text.toList) := tokenChar_range (chars c among)
  have fixed : slashed nfc text.toList = text.toList := by
    rw [slashed, nfc.ascii _ fun c among => by have := range among; omega]
    refine (List.map_congr_left fun c among => if_neg ?_).trans (List.map_id _)
    exact ne_of_toNat (range among).2.2.2.2
  have single : segments text.toList = [text.toList] :=
    List.splitOn_eq_singleton fun slash => (range slash).2.2.1 rfl
  obtain ⟨start, head, known⟩ := first
  have start_range := alphanum_range known
  obtain ⟨rest, whole⟩ : ∃ rest, text.toList = start :: rest := by
    cases parts : text.toList with
    | nil =>
      rw [parts] at head
      cases head
    | cons c rest =>
      rw [parts] at head
      obtain rfl := Option.some.inj head
      exact ⟨rest, rfl⟩
  rw [normalizePackagePath_ok_iff, fixed, String.toList_inj]
  constructor
  · rintro ⟨-, -, rfl, safe⟩
    have part := safe.segments path.toList (single ▸ List.mem_singleton_self _)
    exact ⟨rfl, fun dot => (rstripDots_eq_self.mp part.stripped '.' dot).1 rfl⟩
  · rintro ⟨rfl, dotless⟩
    refine ⟨?_, fun nul => absurd (range nul).1 (by decide), rfl, ?_, ?_, short⟩
    · rintro rfl
      cases whole
    · rw [whole]
      cases rest with
      | nil => rfl
      | cons second rest =>
        have colon : second ≠ ':' := by
          have among : second ∈ path.toList := by rw [whole]; simp
          exact ne_of_toNat (range among).2.2.2.1
        unfold driveLike
        split
        · next same => simp at same; exact absurd same.2.1 colon
        · rfl
    · intro part among
      rw [single, List.mem_singleton] at among
      rw [among]
      refine ⟨⟨?_, ?_, ?_⟩, fun c inside => ?_, rstripDots_eq_self.mpr fun c last => ?_⟩
      · rw [whole]
        exact List.cons_ne_nil _ _
      · rw [whole]
        rintro ⟨⟩
        exact absurd start_range.1 (by decide)
      · rw [whole]
        rintro ⟨⟩
        exact absurd start_range.1 (by decide)
      · have := range inside
        simp only [asciiControl, Bool.or_eq_false_iff, decide_eq_false_iff_not]
        omega
      · have inside := List.mem_of_getLast? last
        refine ⟨?_, ne_of_toNat ?_⟩
        · rintro rfl
          exact dotless last
        · have := range inside
          have space : (' ' : Char).toNat = 32 := rfl
          omega

end Tokens

end Taroai.SkillPackages
