import Mathlib.Data.List.DropRight
import Mathlib.Tactic.Ring

/-! URL-safe base64. Reading is the lenient one of `binascii.a2b_base64`: characters outside
the alphabet are passed over, a pad ends the text where it completes a group of four. -/

namespace Taroai.Base64

/-- The character of six bits, `-` and `_` for the last two. -/
def sextet (n : Nat) : Char :=
  if n < 26 then Char.ofNat (65 + n)
  else if n < 52 then Char.ofNat (97 + (n - 26))
  else if n < 62 then Char.ofNat (48 + (n - 52))
  else if n = 62 then '-' else '_'

/-- `urlsafe_b64encode`. -/
def encode : List UInt8 → List Char
  | [] => []
  | [a] => [sextet (a.toNat / 4), sextet (a.toNat % 4 * 16), '=', '=']
  | [a, b] =>
    [sextet (a.toNat / 4), sextet (a.toNat % 4 * 16 + b.toNat / 16), sextet (b.toNat % 16 * 4), '=']
  | a :: b :: c :: rest =>
    sextet (a.toNat / 4) :: sextet (a.toNat % 4 * 16 + b.toNat / 16) ::
      sextet (b.toNat % 16 * 4 + c.toNat / 64) :: sextet (c.toNat % 64) :: encode rest

def value? (c : Char) : Option Nat :=
  if 65 ≤ c.toNat ∧ c.toNat ≤ 90 then some (c.toNat - 65)
  else if 97 ≤ c.toNat ∧ c.toNat ≤ 122 then some (c.toNat - 97 + 26)
  else if 48 ≤ c.toNat ∧ c.toNat ≤ 57 then some (c.toNat - 48 + 52)
  else if c = '+' ∨ c = '-' then some 62
  else if c = '/' ∨ c = '_' then some 63
  else none

/-- `urlsafe_b64decode`, inside a group: how many of its characters were read, the bits left
of the last one, and the pads since. -/
def decodeFrom (quad left pads : Nat) : List Char → Option (List UInt8)
  | [] => if quad = 0 then some [] else none
  | c :: rest =>
    if c = '=' then
      if quad < 2 then decodeFrom quad left pads rest
      else if 4 ≤ quad + pads + 1 then some []
      else decodeFrom quad left (pads + 1) rest
    else
      match value? c with
      | none => decodeFrom quad left pads rest
      | some v =>
        if quad = 0 then decodeFrom 1 v 0 rest
        else if quad = 1 then
          (decodeFrom 2 (v % 16) 0 rest).map (UInt8.ofNat (left * 4 + v / 16) :: ·)
        else if quad = 2 then
          (decodeFrom 3 (v % 4) 0 rest).map (UInt8.ofNat (left * 16 + v / 4) :: ·)
        else (decodeFrom 0 0 0 rest).map (UInt8.ofNat (left * 64 + v) :: ·)

def decode (text : List Char) : Option (List UInt8) := decodeFrom 0 0 0 text

/-- `rstrip("=")`. -/
def strip (text : List Char) : List Char := text.rdropWhile fun c => c = '='

def pad (text : List Char) : List Char :=
  text ++ List.replicate ((4 - text.length % 4) % 4) '='

theorem value?_sextet {n : Nat} (small : n < 64) : value? (sextet n) = some n := by
  revert n
  decide

theorem sextet_ne_pad {n : Nat} (small : n < 64) : sextet n ≠ '=' := by
  revert n
  decide

theorem sextet_ascii (n : Nat) : (sextet n).toNat < 128 := by
  by_cases small : n < 64
  · revert n
    decide
  · unfold sextet
    rw [if_neg (by omega), if_neg (by omega), if_neg (by omega), if_neg (by omega)]
    decide

theorem encode_ascii (bytes : List UInt8) : ∀ c ∈ encode bytes, c.toNat < 128 := by
  induction bytes using encode.induct with
  | case1 => simp [encode]
  | case2 a => simp [encode, sextet_ascii]
  | case3 a b => simp [encode, sextet_ascii]
  | case4 a b c rest ih =>
    simp only [encode, List.forall_mem_cons]
    exact ⟨sextet_ascii _, sextet_ascii _, sextet_ascii _, sextet_ascii _, ih⟩

theorem sextet_ne_dot (n : Nat) : sextet n ≠ '.' := by
  by_cases small : n < 64
  · revert n
    decide
  · unfold sextet
    rw [if_neg (by omega), if_neg (by omega), if_neg (by omega), if_neg (by omega)]
    decide

theorem encode_ne_dot (bytes : List UInt8) : ∀ c ∈ encode bytes, c ≠ '.' := by
  induction bytes using encode.induct with
  | case1 => simp [encode]
  | case2 a => simp [encode, sextet_ne_dot]
  | case3 a b => simp [encode, sextet_ne_dot]
  | case4 a b c rest ih =>
    simp only [encode, List.forall_mem_cons]
    exact ⟨sextet_ne_dot _, sextet_ne_dot _, sextet_ne_dot _, sextet_ne_dot _, ih⟩

theorem strip_subset (text : List Char) : strip text ⊆ text :=
  (List.rdropWhile_prefix _ text).subset

section Reading

variable {n : Nat} (small : n < 64) (left pads : Nat) (rest : List Char)

include small

theorem decodeFrom_first :
    decodeFrom 0 left pads (sextet n :: rest) = decodeFrom 1 n 0 rest := by
  rw [decodeFrom, if_neg (sextet_ne_pad small), value?_sextet small]
  rfl

theorem decodeFrom_second : decodeFrom 1 left pads (sextet n :: rest) =
    (decodeFrom 2 (n % 16) 0 rest).map (UInt8.ofNat (left * 4 + n / 16) :: ·) := by
  rw [decodeFrom, if_neg (sextet_ne_pad small), value?_sextet small]
  rfl

theorem decodeFrom_third : decodeFrom 2 left pads (sextet n :: rest) =
    (decodeFrom 3 (n % 4) 0 rest).map (UInt8.ofNat (left * 16 + n / 4) :: ·) := by
  rw [decodeFrom, if_neg (sextet_ne_pad small), value?_sextet small]
  rfl

theorem decodeFrom_fourth : decodeFrom 3 left pads (sextet n :: rest) =
    (decodeFrom 0 0 0 rest).map (UInt8.ofNat (left * 64 + n) :: ·) := by
  rw [decodeFrom, if_neg (sextet_ne_pad small), value?_sextet small]
  rfl

end Reading

theorem ofNat_of_parts {a : UInt8} {n : Nat} (same : n = a.toNat) : UInt8.ofNat n = a := by
  rw [same, UInt8.ofNat_toNat]

theorem decode_encode (bytes : List UInt8) : decode (encode bytes) = some bytes := by
  unfold decode
  induction bytes using encode.induct with
  | case1 => rfl
  | case2 a =>
    have bound := a.toNat_lt
    rw [encode, decodeFrom_first (by omega), decodeFrom_second (by omega)]
    have byte : UInt8.ofNat (a.toNat / 4 * 4 + a.toNat % 4 * 16 / 16) = a :=
      ofNat_of_parts (by omega)
    rw [byte]
    rfl
  | case3 a b =>
    have bound := a.toNat_lt
    have bound' := b.toNat_lt
    rw [encode, decodeFrom_first (by omega), decodeFrom_second (by omega),
      decodeFrom_third (by omega)]
    have first : UInt8.ofNat (a.toNat / 4 * 4 + (a.toNat % 4 * 16 + b.toNat / 16) / 16) = a :=
      ofNat_of_parts (by omega)
    have second : UInt8.ofNat ((a.toNat % 4 * 16 + b.toNat / 16) % 16 * 16 + b.toNat % 16 * 4 / 4) =
        b := ofNat_of_parts (by omega)
    rw [first, second]
    rfl
  | case4 a b c rest ih =>
    have bound := a.toNat_lt
    have bound' := b.toNat_lt
    have bound'' := c.toNat_lt
    rw [encode, decodeFrom_first (by omega), decodeFrom_second (by omega),
      decodeFrom_third (by omega), decodeFrom_fourth (by omega), ih]
    have first : UInt8.ofNat (a.toNat / 4 * 4 + (a.toNat % 4 * 16 + b.toNat / 16) / 16) = a :=
      ofNat_of_parts (by omega)
    have second : UInt8.ofNat ((a.toNat % 4 * 16 + b.toNat / 16) % 16 * 16 +
        (b.toNat % 16 * 4 + c.toNat / 64) / 4) = b := ofNat_of_parts (by omega)
    have third : UInt8.ofNat ((b.toNat % 16 * 4 + c.toNat / 64) % 4 * 64 + c.toNat % 64) = c :=
      ofNat_of_parts (by omega)
    rw [first, second, third]
    rfl

theorem encode_body (bytes : List UInt8) : ∃ body pads, encode bytes = body ++ List.replicate pads '=' ∧
    (∀ c ∈ body, c ≠ '=') ∧ pads < 4 ∧ (body.length + pads) % 4 = 0 := by
  induction bytes using encode.induct with
  | case1 => exact ⟨[], 0, rfl, by simp, by omega, rfl⟩
  | case2 a =>
    have bound := a.toNat_lt
    refine ⟨[_, _], 2, rfl, ?_, by omega, by simp⟩
    simp [sextet_ne_pad (n := a.toNat / 4) (by omega),
      sextet_ne_pad (n := a.toNat % 4 * 16) (by omega)]
  | case3 a b =>
    have bound := a.toNat_lt
    have bound' := b.toNat_lt
    refine ⟨[_, _, _], 1, rfl, ?_, by omega, by simp⟩
    simp [sextet_ne_pad (n := a.toNat / 4) (by omega),
      sextet_ne_pad (n := a.toNat % 4 * 16 + b.toNat / 16) (by omega),
      sextet_ne_pad (n := b.toNat % 16 * 4) (by omega)]
  | case4 a b c rest ih =>
    have bound := a.toNat_lt
    have bound' := b.toNat_lt
    have bound'' := c.toNat_lt
    obtain ⟨body, pads, same, free, few, whole⟩ := ih
    refine ⟨_ :: _ :: _ :: _ :: body, pads, by rw [encode, same]; rfl, ?_, few, ?_⟩
    · simp only [List.forall_mem_cons]
      exact ⟨sextet_ne_pad (by omega), sextet_ne_pad (by omega), sextet_ne_pad (by omega),
        sextet_ne_pad (by omega), free⟩
    · simp only [List.length_cons]
      omega

theorem strip_body {body : List Char} (free : ∀ c ∈ body, c ≠ '=') (pads : Nat) :
    strip (body ++ List.replicate pads '=') = body := by
  unfold strip
  induction pads with
  | zero =>
    rw [List.replicate_zero, List.append_nil, List.rdropWhile_eq_self_iff]
    intro nonempty
    simpa using free _ (List.getLast_mem nonempty)
  | succ pads ih =>
    rw [List.replicate_succ', ← List.append_assoc, List.rdropWhile_concat_pos _ _ _ (by simp), ih]

theorem pad_strip_encode (bytes : List UInt8) : pad (strip (encode bytes)) = encode bytes := by
  obtain ⟨body, pads, same, free, few, whole⟩ := encode_body bytes
  have filled : (4 - body.length % 4) % 4 = pads := by omega
  rw [same, strip_body free, pad, filled]

theorem fromUTF8?_bytes (s : String) :
    String.fromUTF8? s.toUTF8.data.toList.toByteArray = some s := by
  have bytes : s.toUTF8.data.toList.toByteArray = s.toUTF8 := by
    apply ByteArray.ext
    rw [List.data_toByteArray, Array.toArray_toList]
  unfold String.fromUTF8?
  rw [bytes, String.toUTF8_eq_toByteArray, dif_pos s.isValidUTF8]
  rfl

end Taroai.Base64
