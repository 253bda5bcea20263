import Taroai.Triggers.Cron
import Taroai.Lib.Whitespace

/-! `TriggerWebhookVerifier`. HMAC-SHA256, SHA-256 and the digits of the Unicode database are
parameters; a time difference is an exact number of seconds. -/

namespace Taroai.Triggers.Webhook

/-- `str.isdigit` and the digits that `int` reads, character by character. -/
structure UnicodeDigits where
  isDigit : Char → Bool
  decimal : Char → Option Nat
  decimal_isDigit : ∀ c v, decimal c = some v → isDigit c = true
  ascii : ∀ c, c.toNat < 128 →
    isDigit c = c.isDigit ∧ decimal c = if c.isDigit then some (digitValue c) else none

structure Hashing where
  sha256 : List UInt8 → List UInt8
  hmac : (key msg : List UInt8) → List UInt8
  length_hmac : ∀ key msg, (hmac key msg).length = 32

inductive Raised where
  | signatureError (message : String)
  | valueError
  | overflowError
  | osError
  | unicodeEncodeError
deriving DecidableEq, Repr

structure VerificationResult where
  verified : Bool
  algorithm : String
  timestamp : Option Time
  bodySha256 : List Char
deriving DecidableEq

structure Verifier where
  signingSecrets : List String
  toleranceSeconds : Nat
  allowUnsigned : Bool
  tolerance_pos : 1 ≤ toleranceSeconds

section
variable (digits : UnicodeDigits)

/-- `text.isdigit()` -/
def isdigit (text : List Char) : Bool := !text.isEmpty && text.all digits.isDigit

/-- `sys.int_info.default_max_str_digits` -/
def maxStrDigits : Nat := 4300

def decimalValue : Nat → List Char → Option Nat
  | n, [] => some n
  | n, c :: text => (digits.decimal c).bind fun d => decimalValue (10 * n + d) text

/-- `int(text)` of digits. -/
def intOf (text : List Char) : Except Raised Nat :=
  match decimalValue digits 0 text with
  | none => .error .valueError
  | some n => if maxStrDigits < text.length then .error .valueError else .ok n

def maxTimestamp : Nat := 253402300799

/-- `datetime.fromtimestamp(n, tz=timezone.utc)`: past the year 9999 the year is out of range,
past the years of the C library the call fails, past 64 bits there is no time. -/
def fromtimestamp (n : Nat) : Except Raised Time :=
  if n ≤ maxTimestamp then .ok (seconds n)
  else if n ≤ 67768036191676799 then .error .valueError
  else if n < 2 ^ 63 then .error .osError
  else .error .overflowError

def parseTimestamp (value : String) : Except Raised Time :=
  let normalized := strippedChars value
  if isdigit digits normalized then intOf digits normalized >>= fromtimestamp
  else .error (.signatureError "webhook timestamp is invalid")

/-- `text.encode("ascii")` -/
def encodeAscii (text : List Char) : Except Raised (List UInt8) :=
  if text.all (·.toNat < 128) then .ok (text.map (·.toNat.toUInt8))
  else .error .unicodeEncodeError

def hexDigit (n : Nat) : Char := "0123456789abcdef".toList.getD n '0'

def hexdigest (bytes : List UInt8) : List Char :=
  bytes.flatMap fun b => [hexDigit (b.toNat / 16), hexDigit (b.toNat % 16)]

def isHex (c : Char) : Bool :=
  ('a' ≤ c && c ≤ 'f') || ('A' ≤ c && c ≤ 'F') || ('0' ≤ c && c ≤ '9')

/-- `removeprefix("sha256=")` -/
def removePrefix (text : List Char) : List Char :=
  if "sha256=".toList.isPrefixOf text then text.drop 7 else text

def listed (part : List Char) : List Char := removePrefix (stripChars isSpace part)

def extractSignatures (value : String) : List (List Char) :=
  ((splitOn ',' value.toList).map listed).filter (fun text =>
    text.length == 64 && text.all isHex) |>.map fun text => text.map Char.toLower

end

namespace Verifier

variable (digits : UnicodeDigits) (hashing : Hashing) (clock : Time) (v : Verifier)

def validateTimestamp (timestamp now : Time) : Except Raised Unit :=
  if seconds v.toleranceSeconds < |now - timestamp| then
    .error (.signatureError "webhook timestamp is outside tolerance")
  else .ok ()

def verify (body : List UInt8) (timestampHeader signatureHeader : Option String)
    (now : Option DateTime) : Except Raised VerificationResult :=
  let bodySha256 := hexdigest (hashing.sha256 body)
  if v.allowUnsigned ∧ v.signingSecrets = [] then
    .ok { verified := false, algorithm := "unsigned", timestamp := none, bodySha256 }
  else if v.signingSecrets = [] then
    .error (.signatureError "webhook signing secret is not configured")
  else
    match timestampHeader.filter (· ≠ ""), signatureHeader.filter (· ≠ "") with
    | some timestampHeader, some signatureHeader => do
      let timestamp ← parseTimestamp digits timestampHeader
      v.validateTimestamp timestamp ((now.map ensureAware).getD clock)
      let expectedPayload := (← encodeAscii (strippedChars timestampHeader)) ++ (46 :: body)
      let provided := extractSignatures signatureHeader
      if provided = [] then .error (.signatureError "webhook signature is invalid")
      else if v.signingSecrets.any fun secret =>
          provided.contains (hexdigest (hashing.hmac secret.toUTF8.toList expectedPayload)) then
        .ok { verified := true, algorithm := "hmac-sha256", timestamp := some timestamp, bodySha256 }
      else .error (.signatureError "webhook signature is invalid")
    | _, _ => .error (.signatureError "webhook signature header is missing")

end Verifier

def decimalNumber (text : List Char) : Option Nat :=
  if text ≠ [] ∧ text.all Char.isDigit then
    some (text.foldl (fun n c => 10 * n + digitValue c) 0)
  else none

def Spells (text : List Char) (digest : List UInt8) : Prop :=
  text.map Char.toLower = hexdigest digest

def Genuine (hashing : Hashing) (v : Verifier) (body : List UInt8)
    (timestampHeader signatureHeader : Option String) (now : Time) : Prop :=
  ∃ timestamp signatures n, timestampHeader = some timestamp ∧ signatureHeader = some signatures ∧
    decimalNumber (strippedChars timestamp) = some n ∧
    |now - seconds n| ≤ seconds v.toleranceSeconds ∧
    ∃ secret ∈ v.signingSecrets, ∃ part ∈ splitOn ',' signatures.toList,
      Spells (listed part) (hashing.hmac secret.toUTF8.toList
        ((strippedChars timestamp).map (·.toNat.toUInt8) ++ (46 :: body)))

def Exact (outcome : Except Raised VerificationResult) (genuine : Prop) : Prop :=
  ((∃ r, outcome = .ok r ∧ r.verified = true) ↔ genuine) ∧
    (¬ genuine → ∃ message, outcome = .error (.signatureError message))

/-- A text that counts as digits is a number that a time can be made of, and is either ASCII or
the time is not within the tolerance. -/
def Readable (digits : UnicodeDigits) (v : Verifier) (now : Time) (trimmed : List Char) : Prop :=
  isdigit digits trimmed = true →
    ∃ n, decimalValue digits 0 trimmed = some n ∧ trimmed.length ≤ maxStrDigits ∧
      n ≤ maxTimestamp ∧
      ((∀ c ∈ trimmed, c.toNat < 128) ∨ seconds v.toleranceSeconds < |now - seconds n|)

section
variable (digits : UnicodeDigits)

theorem toNat_of_isDigit {c : Char} (digit : c.isDigit = true) : c.toNat < 128 := by
  have : c.toNat ≤ 57 := by
    simp only [Char.isDigit, ge_iff_le, Bool.and_eq_true, decide_eq_true_eq] at digit
    exact digit.2
  omega

theorem decimalValue_ascii {text : List Char} (ascii : text.all Char.isDigit = true) :
    ∀ n, decimalValue digits n text = some (text.foldl (fun n c => 10 * n + digitValue c) n) := by
  induction text with
  | nil => intro n; rfl
  | cons c text ih =>
    intro n
    rw [List.all_cons, Bool.and_eq_true] at ascii
    have value := (digits.ascii c (toNat_of_isDigit ascii.1)).2
    rw [decimalValue, value, if_pos ascii.1, Option.bind_some, ih ascii.2, List.foldl_cons]

theorem isdigit_of_decimalNumber {text : List Char} {n : Nat}
    (number : decimalNumber text = some n) :
    isdigit digits text = true ∧ decimalValue digits 0 text = some n ∧
      ∀ c ∈ text, c.toNat < 128 := by
  unfold decimalNumber at number
  split at number
  · rename_i shape
    cases number
    refine ⟨?_, decimalValue_ascii digits shape.2 0, fun c among => ?_⟩
    · rw [isdigit, Bool.and_eq_true, List.all_eq_true]
      refine ⟨by simpa using shape.1, fun c among => ?_⟩
      have digit := List.all_eq_true.mp shape.2 c among
      rw [(digits.ascii c (toNat_of_isDigit digit)).1, digit]
    · exact toNat_of_isDigit (List.all_eq_true.mp shape.2 c among)
  · cases number

theorem decimalNumber_of_isdigit {text : List Char} {n : Nat} (counts : isdigit digits text = true)
    (value : decimalValue digits 0 text = some n) (ascii : ∀ c ∈ text, c.toNat < 128) :
    decimalNumber text = some n := by
  rw [isdigit, Bool.and_eq_true, List.all_eq_true] at counts
  have all_digits : text.all Char.isDigit = true := by
    rw [List.all_eq_true]
    intro c among
    rw [← (digits.ascii c (ascii c among)).1]
    exact counts.2 c among
  rw [decimalNumber, if_pos ⟨by simpa using counts.1, all_digits⟩,
    ← decimalValue_ascii digits all_digits 0, value]

end

theorem hexDigit_mem (n : Nat) : hexDigit n ∈ "0123456789abcdef".toList := by
  rw [hexDigit, List.getD_eq_getElem?_getD]
  cases found : "0123456789abcdef".toList[n]? with
  | none => decide
  | some c => exact List.mem_of_getElem? found

theorem isHex_of_toLower {c : Char} (among : c.toLower ∈ "0123456789abcdef".toList) :
    isHex c = true := by
  by_cases upper : 'A' ≤ c ∧ c ≤ 'Z'
  · have low : 65 ≤ c.toNat := upper.1
    have high : c.toNat ≤ 90 := upper.2
    rw [← Char.ofNat_toNat c] at among ⊢
    generalize c.toNat = n at *
    have checked : ∀ n ≤ 90, 65 ≤ n → (Char.ofNat n).toLower ∈ "0123456789abcdef".toList →
        isHex (Char.ofNat n) = true := by decide
    exact checked n high low among
  · have same : c.toLower = c := dif_neg upper
    rw [same] at among
    have checked : "0123456789abcdef".toList.all isHex = true := by decide
    exact List.all_eq_true.mp checked c among

theorem length_hexdigest (bytes : List UInt8) : (hexdigest bytes).length = 2 * bytes.length := by
  induction bytes with
  | nil => rfl
  | cons b bytes ih => simp_all [hexdigest]; omega

theorem Spells.shape {text : List Char} {digest : List UInt8} (spells : Spells text digest)
    (long : digest.length = 32) : text.length = 64 ∧ text.all isHex = true := by
  constructor
  · rw [← List.length_map (f := Char.toLower), spells, length_hexdigest, long]
  · rw [List.all_eq_true]
    intro c among
    have spelled : c.toLower ∈ hexdigest digest := spells ▸ List.mem_map_of_mem among
    obtain ⟨b, -, digit⟩ := List.mem_flatMap.mp spelled
    refine isHex_of_toLower ?_
    simp only [List.mem_cons, List.not_mem_nil, or_false] at digit
    cases digit with
    | inl high => exact high ▸ hexDigit_mem _
    | inr low => exact low ▸ hexDigit_mem _

theorem mem_extractSignatures {value : String} {digest : List UInt8} (long : digest.length = 32) :
    hexdigest digest ∈ extractSignatures value ↔
      ∃ part ∈ splitOn ',' value.toList, Spells (listed part) digest := by
  rw [extractSignatures, List.mem_map]
  constructor
  · rintro ⟨text, among, spells⟩
    obtain ⟨part, in_header, rfl⟩ := List.mem_map.mp (List.mem_filter.mp among).1
    exact ⟨part, in_header, spells⟩
  · rintro ⟨part, in_header, spells⟩
    have shape := spells.shape long
    refine ⟨listed part, List.mem_filter.mpr ⟨List.mem_map_of_mem in_header, ?_⟩, spells⟩
    rw [Bool.and_eq_true, beq_iff_eq]
    exact shape

section
variable {digits : UnicodeDigits} {value : String}

theorem parseTimestamp_eq_ok {n : Nat} (counts : isdigit digits (strippedChars value) = true)
    (number : decimalValue digits 0 (strippedChars value) = some n)
    (short : (strippedChars value).length ≤ maxStrDigits) (early : n ≤ maxTimestamp) :
    parseTimestamp digits value = .ok (seconds n) := by
  simp only [parseTimestamp, counts, if_true, intOf, number, if_neg (Nat.not_lt.mpr short)]
  exact if_pos early

theorem parseTimestamp_refuses (counts : isdigit digits (strippedChars value) ≠ true) :
    parseTimestamp digits value = .error (.signatureError "webhook timestamp is invalid") :=
  if_neg counts

theorem parseTimestamp_escapes (counts : isdigit digits (strippedChars value) = true)
    (unreadable : ¬ ∃ n, decimalValue digits 0 (strippedChars value) = some n ∧
      (strippedChars value).length ≤ maxStrDigits ∧ n ≤ maxTimestamp) :
    ∃ e, parseTimestamp digits value = .error e ∧ ∀ message, e ≠ .signatureError message := by
  simp only [parseTimestamp, counts, if_true, intOf]
  cases number : decimalValue digits 0 (strippedChars value) with
  | none => exact ⟨_, rfl, by simp⟩
  | some n =>
    dsimp only
    by_cases short : (strippedChars value).length ≤ maxStrDigits
    · have late : ¬ n ≤ maxTimestamp := fun early => unreadable ⟨n, number, short, early⟩
      rw [if_neg (Nat.not_lt.mpr short)]
      show ∃ e, fromtimestamp n = .error e ∧ _
      rw [fromtimestamp, if_neg late]
      split
      · exact ⟨_, rfl, by simp⟩
      split
      · exact ⟨_, rfl, by simp⟩
      · exact ⟨_, rfl, by simp⟩
    · rw [if_pos (Nat.lt_of_not_le short)]
      exact ⟨_, rfl, by simp⟩

end

theorem exact_of_refused {genuine : Prop} {message : String} (not_genuine : ¬ genuine) :
    Exact (.error (.signatureError message)) genuine := by
  refine ⟨⟨fun ⟨_, verified, _⟩ => ?_, fun is_genuine => absurd is_genuine not_genuine⟩,
    fun _ => ⟨message, rfl⟩⟩
  cases verified

theorem exact_of_verified {genuine : Prop} {r : VerificationResult} (is_genuine : genuine)
    (verified : r.verified = true) : Exact (.ok r) genuine :=
  ⟨⟨fun _ => is_genuine, fun _ => ⟨r, rfl, verified⟩⟩, fun not => absurd is_genuine not⟩

theorem not_exact_of_escaped {genuine : Prop} {e : Raised}
    (escaped : ∀ message, e ≠ .signatureError message) : ¬ Exact (.error e) genuine := by
  intro exact_outcome
  by_cases is_genuine : genuine
  · obtain ⟨r, verified, -⟩ := exact_outcome.1.mpr is_genuine
    cases verified
  · obtain ⟨message, raised⟩ := exact_outcome.2 is_genuine
    cases raised
    exact escaped message rfl

section
variable (digits : UnicodeDigits) (hashing : Hashing) (v : Verifier) (body : List UInt8)
  (now : Time) (timestamp signatures : String)

theorem genuine_iff : Genuine hashing v body (some timestamp) (some signatures) now ↔
    ∃ n, decimalNumber (strippedChars timestamp) = some n ∧
      |now - seconds n| ≤ seconds v.toleranceSeconds ∧
      ∃ secret ∈ v.signingSecrets,
        hexdigest (hashing.hmac secret.toUTF8.toList
          ((strippedChars timestamp).map (·.toNat.toUInt8) ++ (46 :: body))) ∈
          extractSignatures signatures := by
  simp only [mem_extractSignatures (hashing.length_hmac _ _)]
  constructor
  · intro genuine
    obtain ⟨_, _, n, stamp, signature, genuine⟩ := genuine
    cases stamp
    cases signature
    exact ⟨n, genuine⟩
  · rintro ⟨n, genuine⟩
    exact ⟨timestamp, signatures, n, rfl, rfl, genuine⟩

theorem verify_headers (configured : v.signingSecrets ≠ []) (clock : Time)
    (given : Option DateTime) (stamped : timestamp ≠ "") (signed : signatures ≠ "") :
    v.verify digits hashing clock body (some timestamp) (some signatures) given =
      (parseTimestamp digits timestamp >>= fun t =>
        v.validateTimestamp t ((given.map ensureAware).getD clock) >>= fun _ =>
        encodeAscii (strippedChars timestamp) >>= fun encoded =>
        if extractSignatures signatures = [] then
          .error (.signatureError "webhook signature is invalid")
        else if v.signingSecrets.any fun secret => (extractSignatures signatures).contains
            (hexdigest (hashing.hmac secret.toUTF8.toList (encoded ++ (46 :: body)))) then
          .ok {
            verified := true, algorithm := "hmac-sha256", timestamp := some t
            bodySha256 := hexdigest (hashing.sha256 body) }
        else .error (.signatureError "webhook signature is invalid")) := by
  rw [Verifier.verify, if_neg fun unsigned => configured unsigned.2, if_neg configured]
  simp only [Option.filter, stamped, signed, ne_eq, not_false_eq_true, decide_true, if_true]

theorem encodeAscii_ok {text : List Char} (ascii : ∀ c ∈ text, c.toNat < 128) :
    encodeAscii text = .ok (text.map (·.toNat.toUInt8)) := by
  refine if_pos (List.all_eq_true.mpr fun c among => ?_)
  exact decide_eq_true (ascii c among)

theorem encodeAscii_escapes {text : List Char} (foreign : ¬ ∀ c ∈ text, c.toNat < 128) :
    encodeAscii text = .error .unicodeEncodeError := by
  refine if_neg fun ascii => foreign fun c among => ?_
  exact of_decide_eq_true (List.all_eq_true.mp ascii c among)

theorem exact_in_time (configured : v.signingSecrets ≠ []) (clock : Time) (given : Option DateTime)
    (stamped : timestamp ≠ "") (signed : signatures ≠ "") {n : Nat}
    (number : decimalNumber (strippedChars timestamp) = some n)
    (parsed : parseTimestamp digits timestamp = .ok (seconds n))
    (in_time : |(given.map ensureAware).getD clock - seconds n| ≤ seconds v.toleranceSeconds) :
    Exact (v.verify digits hashing clock body (some timestamp) (some signatures) given)
      (Genuine hashing v body (some timestamp) (some signatures)
        ((given.map ensureAware).getD clock)) := by
  have ascii := (isdigit_of_decimalNumber digits number).2.2
  have validated : v.validateTimestamp (seconds n) ((given.map ensureAware).getD clock) = .ok () :=
    if_neg (not_lt.mpr in_time)
  rw [verify_headers digits hashing v body timestamp signatures configured clock given stamped
    signed, parsed, encodeAscii_ok ascii, genuine_iff]
  simp only [bind, Except.bind, validated]
  by_cases listed_any : extractSignatures signatures = []
  · rw [if_pos listed_any]
    refine exact_of_refused ?_
    rintro ⟨_, _, _, _, _, listed⟩
    rw [listed_any] at listed
    cases listed
  rw [if_neg listed_any]
  split
  · rename_i signs
    obtain ⟨secret, among, listed⟩ := List.any_eq_true.mp signs
    exact exact_of_verified
      ⟨n, number, in_time, secret, among, List.contains_iff_mem.mp listed⟩ rfl
  · rename_i signs
    refine exact_of_refused ?_
    rintro ⟨_, _, _, secret, among, listed⟩
    exact signs (List.any_eq_true.mpr ⟨secret, among, List.contains_iff_mem.mpr listed⟩)

theorem exact_iff_readable (configured : v.signingSecrets ≠ []) (clock : Time)
    (given : Option DateTime) (stamped : timestamp ≠ "") (signed : signatures ≠ "") :
    Exact (v.verify digits hashing clock body (some timestamp) (some signatures) given)
        (Genuine hashing v body (some timestamp) (some signatures)
          ((given.map ensureAware).getD clock)) ↔
      Readable digits v ((given.map ensureAware).getD clock) (strippedChars timestamp) := by
  have outcome := verify_headers digits hashing v body timestamp signatures configured clock given
    stamped signed
  by_cases counts : isdigit digits (strippedChars timestamp) = true
  · by_cases readable : ∃ n, decimalValue digits 0 (strippedChars timestamp) = some n ∧
      (strippedChars timestamp).length ≤ maxStrDigits ∧ n ≤ maxTimestamp
    · obtain ⟨n, value, short, early⟩ := readable
      have parsed := parseTimestamp_eq_ok counts value short early
      by_cases in_time :
          |(given.map ensureAware).getD clock - seconds n| ≤ seconds v.toleranceSeconds
      · by_cases ascii : ∀ c ∈ strippedChars timestamp, c.toNat < 128
        · refine iff_of_true ?_ fun _ => ⟨n, value, short, early, .inl ascii⟩
          exact exact_in_time digits hashing v body timestamp signatures configured clock given
            stamped signed (decimalNumber_of_isdigit digits counts value ascii) parsed in_time
        · refine iff_of_false ?_ fun reads => ?_
          · have validated : v.validateTimestamp (seconds n)
                ((given.map ensureAware).getD clock) = .ok () := if_neg (not_lt.mpr in_time)
            rw [outcome, parsed, encodeAscii_escapes ascii]
            simp only [bind, Except.bind, validated]
            exact not_exact_of_escaped (by simp)
          · obtain ⟨m, same, -, -, ascii_or_late⟩ := reads counts
            cases same.symm.trans value
            cases ascii_or_late with
            | inl all_ascii => exact ascii all_ascii
            | inr late => exact absurd late (not_lt.mpr in_time)
      · have late := not_le.mp in_time
        refine iff_of_true ?_ fun _ => ⟨n, value, short, early, .inr late⟩
        have refused : v.validateTimestamp (seconds n) ((given.map ensureAware).getD clock) =
            .error (.signatureError "webhook timestamp is outside tolerance") := if_pos late
        rw [outcome, parsed]
        simp only [bind, Except.bind, refused]
        refine exact_of_refused ?_
        rw [genuine_iff]
        rintro ⟨m, number, within, -⟩
        have same := (isdigit_of_decimalNumber digits number).2.1
        cases same.symm.trans value
        exact in_time within
    · refine iff_of_false ?_ fun reads => ?_
      · obtain ⟨e, raised, escapes⟩ := parseTimestamp_escapes counts readable
        rw [outcome, raised]
        exact not_exact_of_escaped escapes
      · obtain ⟨n, value, short, early, -⟩ := reads counts
        exact readable ⟨n, value, short, early⟩
  · refine iff_of_true ?_ fun counted => absurd counted counts
    rw [outcome, parseTimestamp_refuses counts]
    refine exact_of_refused ?_
    rw [genuine_iff]
    rintro ⟨n, number, -⟩
    exact counts (isdigit_of_decimalNumber digits number).1

end

/-- Verification is exact just when a timestamp that counts as digits is readable. -/
theorem verify_exact (digits : UnicodeDigits) (hashing : Hashing) (clock : Time) (v : Verifier)
    (configured : v.signingSecrets ≠ []) (body : List UInt8)
    (timestampHeader signatureHeader : Option String) (given : Option DateTime) :
    Exact (v.verify digits hashing clock body timestampHeader signatureHeader given)
        (Genuine hashing v body timestampHeader signatureHeader
          ((given.map ensureAware).getD clock)) ↔
      ∀ timestamp signatures, timestampHeader = some timestamp → signatureHeader = some signatures →
        signatures ≠ "" →
        Readable digits v ((given.map ensureAware).getD clock) (strippedChars timestamp) := by
  have missing : ∀ {stamp signs : Option String}, stamp.filter (· ≠ "") = none ∨
      signs.filter (· ≠ "") = none → v.verify digits hashing clock body stamp signs given =
        .error (.signatureError "webhook signature header is missing") := by
    intro stamp signs absent
    rw [Verifier.verify, if_neg fun unsigned => configured unsigned.2, if_neg configured]
    cases absent with
    | inl absent => simp only [absent]
    | inr absent =>
      simp only [absent]
      cases stamp.filter (· ≠ "") <;> rfl
  cases timestampHeader with
  | none =>
    refine iff_of_true ?_ fun _ _ absent => nomatch absent
    rw [missing (.inl rfl)]
    exact exact_of_refused fun ⟨_, _, _, absent, _⟩ => nomatch absent
  | some timestamp =>
    cases signatureHeader with
    | none =>
      refine iff_of_true ?_ fun _ _ _ absent => nomatch absent
      rw [missing (.inr rfl)]
      exact exact_of_refused fun ⟨_, _, _, _, absent, _⟩ => nomatch absent
    | some signatures =>
      have headers : (∀ t s, some timestamp = some t → some signatures = some s → s ≠ "" →
          Readable digits v ((given.map ensureAware).getD clock) (strippedChars t)) ↔
          (signatures ≠ "" →
            Readable digits v ((given.map ensureAware).getD clock) (strippedChars timestamp)) := by
        constructor
        · exact fun reads signed => reads _ _ rfl rfl signed
        · rintro reads t s stamp signature signed
          cases stamp
          cases signature
          exact reads signed
      rw [headers]
      by_cases signed : signatures = ""
      · subst signed
        refine iff_of_true ?_ fun signed => absurd rfl signed
        rw [missing (.inr (by simp))]
        refine exact_of_refused ?_
        rw [genuine_iff]
        rintro ⟨_, _, _, _, _, listed⟩
        cases listed
      by_cases stamped : timestamp = ""
      · subst stamped
        have empty : isdigit digits (strippedChars "") = false := rfl
        refine iff_of_true ?_ fun _ counts => absurd (empty.symm.trans counts) Bool.false_ne_true
        rw [missing (.inl (by simp))]
        refine exact_of_refused ?_
        rw [genuine_iff]
        rintro ⟨_, number, -⟩
        cases number
      · rw [exact_iff_readable digits hashing v body timestamp signatures configured clock given
          stamped signed]
        exact ⟨fun reads _ => reads, fun reads => reads signed⟩

/-- ASCII digits, and a superscript that counts as a digit and has no decimal value. -/
def superscriptDigits : UnicodeDigits where
  isDigit c := c.isDigit || c == '²'
  decimal c := if c.isDigit then some (digitValue c) else none
  decimal_isDigit c v value := by
    by_cases digit : c.isDigit = true
    · rw [digit, Bool.true_or]
    · rw [if_neg digit] at value
      cases value
  ascii c ascii := by
    refine ⟨?_, rfl⟩
    have other : (c == '²') = false := by
      rw [beq_eq_false_iff_ne]
      rintro rfl
      exact absurd ascii (by decide)
    rw [other, Bool.or_false]

def blankHashing : Hashing where
  sha256 _ := List.replicate 32 0
  hmac _ _ := List.replicate 32 0
  length_hmac _ _ := rfl

def sampleVerifier : Verifier where
  signingSecrets := ["webhook_signing_secret"]
  toleranceSeconds := 300
  allowUnsigned := false
  tolerance_pos := by decide

theorem unsigned_refused :
    Exact (sampleVerifier.verify superscriptDigits blankHashing 0 [] (some "1782983100")
        (some "sha256=bad") (some (DateTime.utc (seconds 1782983220))))
      (Genuine blankHashing sampleVerifier [] (some "1782983100") (some "sha256=bad")
        (seconds 1782983220)) := by
  refine (verify_exact superscriptDigits blankHashing 0 sampleVerifier (by decide) [] _ _ _).mpr ?_
  intro timestamp signatures stamp _ _ _
  cases stamp
  exact ⟨1782983100, by decide, by decide, by decide, .inl (forall_mem_of_all (by decide))⟩

/-- A timestamp of `²` counts as digits and raises a `ValueError`. -/
theorem superscript_escapes :
    ¬ Exact (sampleVerifier.verify superscriptDigits blankHashing 0 [] (some "²") (some "bad")
        (some (DateTime.utc 0)))
      (Genuine blankHashing sampleVerifier [] (some "²") (some "bad") 0) := by
  have raised : sampleVerifier.verify superscriptDigits blankHashing 0 [] (some "²") (some "bad")
      (some (DateTime.utc 0)) = .error .valueError := by decide +kernel
  rw [raised]
  exact not_exact_of_escaped (by simp)

end Taroai.Triggers.Webhook
