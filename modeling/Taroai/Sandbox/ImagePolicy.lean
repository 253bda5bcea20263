import Mathlib
import Taroai.Lib.Glob
import Taroai.Lib.Substitute
import Taroai.Lib.Whitespace

/-! Which sandbox images a deployment may run: the checks of the allowed image patterns and of
an image. `str.lower` is a parameter. -/

namespace Taroai.Sandbox

open Glob

def digestMark : List Char := "@sha256:".toList

def hexadecimal (c : Char) : Bool :=
  ('a' ≤ c && c ≤ 'f') || ('A' ≤ c && c ≤ 'F') || ('0' ≤ c && c ≤ '9')

/-- `SANDBOX_IMAGE_DIGEST_PATTERN`, for a text with no white space at its end. -/
def endsWithDigest (text : List Char) : Bool :=
  let ending := text.drop (text.length - 72)
  digestMark.isPrefixOf ending && (ending.drop 8).length == 64 && (ending.drop 8).all hexadecimal

def imageDigestPinned (image : List Char) : Bool := endsWithDigest (stripChars isSpace image)

def imageDigestScopedPattern (pattern : List Char) : Bool :=
  (cutAt digestMark (stripChars isSpace pattern)).isSome

def imageHasRegistry (image : List Char) : Bool :=
  let text := stripChars isSpace image
  if '/' ∈ text then
    let first := text.takeWhile (· != '/')
    decide ('.' ∈ first) || decide (':' ∈ first) || first == "localhost".toList
  else false

def imageWithoutDigest (image : List Char) : List Char :=
  (stripChars isSpace image).takeWhile (· != '@')

def lastComponent (text : List Char) : List Char := text.reverse.takeWhile (· != '/') |>.reverse

section
variable (lower : List Char → List Char)

def latestTag (component : List Char) : Bool := ":latest".toList.isSuffixOf (lower component)

def imageHasNonLatestTag (image : List Char) : Bool :=
  if imageDigestPinned image then true
  else
    let last := lastComponent (imageWithoutDigest image)
    if ':' ∈ last then !latestTag lower last else false

def imageUsesLatestTag (image : List Char) : Bool :=
  latestTag lower (lastComponent (imageWithoutDigest image))

def imageUsesApprovedReference (image : List Char) : Bool :=
  imageDigestPinned image || (imageHasRegistry image && imageHasNonLatestTag lower image)

def imagePatternUsesApprovedReference (pattern : List Char) : Bool :=
  (imageDigestScopedPattern pattern && imageHasRegistry pattern) ||
    (imageHasRegistry pattern && imageHasNonLatestTag lower pattern)

def broadAllowedImagePatterns : List (List Char) :=
  ["*".toList, "**".toList, "*:*".toList, "*@sha256:*".toList, "latest".toList]

def allowedImagePatternIsBroad (pattern : List Char) : Bool :=
  let text := stripChars isSpace pattern
  if broadAllowedImagePatterns.contains (lower text) then true
  else if '*' ∉ text then false
  else
    match cutAt digestMark text with
    | none => true
    | some (name, digest) => decide ('*' ∈ name) || digest != ['*']

def normalizeAllowedImages (allowed : List (List Char)) : List (List Char) :=
  (allowed.map (stripChars isSpace)).filter (· != [])

def allowedImagePolicyFailureDetails (context : String) (allowed : List (List Char)) :
    List String :=
  match normalizeAllowedImages allowed with
  | [] => [context ++ " allowed image list must not be empty"]
  | patterns =>
    (patterns.flatMap fun pattern =>
      (if allowedImagePatternIsBroad lower pattern then
        [context ++ " allowed image list contained a broad pattern"] else []) ++
      (if imageUsesLatestTag lower pattern then
        [context ++ " allowed image pattern must not use latest tag"] else []) ++
      (if imagePatternUsesApprovedReference lower pattern then []
        else [context ++ " allowed image pattern must use an approved registry or digest"])
    ).eraseDups

def imagePolicyFailureDetails (context : String) (image : List Char)
    (allowed : List (List Char)) : List String :=
  let patterns := normalizeAllowedImages allowed
  allowedImagePolicyFailureDetails lower context allowed ++
    (if patterns ≠ [] ∧ ¬ patterns.any (fnmatchcase image) then
      [context ++ " image is not allowed by configured image patterns"] else []) ++
    (if imageUsesApprovedReference lower image then []
      else [context ++ " image must use an approved registry or digest"]) ++
    (if imageUsesLatestTag lower image then [context ++ " image must not use the latest tag"]
      else [])

end

structure Reference where
  registry : Option (List Char)
  repository : List Char
  tag : Option (List Char)
deriving DecidableEq

/-- The text after the last `:` of the last component is the tag; the component before the first
`/` is the registry when it is written like a host. -/
def reference (image : List Char) : Reference :=
  let name := imageWithoutDigest image
  let last := lastComponent name
  let tag := if ':' ∈ last then some (last.reverse.takeWhile (· != ':')).reverse else none
  let untagged := name.take (name.length - (tag.elim 0 (·.length + 1)))
  if imageHasRegistry name then
    { registry := some (name.takeWhile (· != '/'))
      repository := (untagged.dropWhile (· != '/')).drop 1
      tag }
  else { registry := none, repository := untagged, tag }

/-- The same registry, repository and tag, and a difference behind the digest mark only. -/
def SameButDigest (a b : List Char) : Prop :=
  reference a = reference b ∧
    (a = b ∨ ∃ front d e, a = front ++ (digestMark ++ d) ∧ b = front ++ (digestMark ++ e))

/-- Each wildcard of the pattern's name, the part before a digest mark, that the check of broad
patterns does not look for (all but `*`) stands for one character. -/
def NarrowName (pattern : List Char) : Prop :=
  ∀ t ∈ beforePlain digestMark (tokens pattern), t ≠ .star → t.Single

section
variable {lower : List Char → List Char}

theorem allowed_pattern {context : String} {allowed : List (List Char)}
    (passes : allowedImagePolicyFailureDetails lower context allowed = []) {pattern : List Char}
    (among : pattern ∈ normalizeAllowedImages allowed) :
    allowedImagePatternIsBroad lower pattern = false := by
  unfold allowedImagePolicyFailureDetails at passes
  split at passes
  · cases passes
  · rename_i nonempty
    by_contra broad
    have detail : context ++ " allowed image list contained a broad pattern" ∈ ([] : List String) := by
      rw [← passes, List.mem_eraseDups, List.mem_flatMap]
      exact ⟨pattern, among, by simp [broad]⟩
    cases detail

theorem normalized_stripped {allowed : List (List Char)} {pattern : List Char}
    (among : pattern ∈ normalizeAllowedImages allowed) : stripChars isSpace pattern = pattern := by
  obtain ⟨raw, -, rfl⟩ := List.mem_map.mp (List.mem_filter.mp among).1
  exact stripChars_stripChars isSpace raw

theorem star_behind_mark {pattern : List Char} (stripped : stripChars isSpace pattern = pattern)
    (narrow : allowedImagePatternIsBroad lower pattern = false) (starred : '*' ∈ pattern) :
    ∃ name, '*' ∉ name ∧ pattern = name ++ (digestMark ++ ['*']) := by
  unfold allowedImagePatternIsBroad at narrow
  simp only [stripped] at narrow
  split at narrow
  · cases narrow
  cases cut : cutAt digestMark pattern with
  | none => simp [cut] at narrow
  | some halves =>
    obtain ⟨name, digest⟩ := halves
    simp only [cut, Bool.or_eq_false_iff, decide_eq_false_iff_not, bne_eq_false_iff_eq] at narrow
    obtain ⟨unstarred, rfl⟩ := narrow
    exact ⟨name, unstarred, cutAt_eq_some cut⟩

theorem star_notMem_name {pattern : List Char} (stripped : stripChars isSpace pattern = pattern)
    (narrow : allowedImagePatternIsBroad lower pattern = false) :
    Token.star ∉ beforePlain digestMark (tokens pattern) := by
  by_cases starred : '*' ∈ pattern
  · obtain ⟨name, unstarred, rfl⟩ := star_behind_mark stripped narrow starred
    intro among
    have marked : tokens (digestMark ++ ['*']) = plain digestMark ++ [.star] := by decide
    rw [tokens_append name (by decide), marked] at among
    cases beforePlain_subset _ _ _ among with
    | inl empty => exact absurd empty (by decide)
    | inr among => exact star_notMem_tokensAfter unstarred 0 among
  · intro among
    refine star_notMem_tokensAfter starred 0 ?_
    cases beforePlain_eq_or digestMark (tokens pattern) with
    | inl whole => rwa [whole] at among
    | inr marked =>
      obtain ⟨back, whole⟩ := marked
      rw [← tokens, whole]
      exact List.mem_append_left _ among

theorem imageWithoutDigest_marked (front d : List Char) :
    imageWithoutDigest (front ++ (digestMark ++ d)) =
      (front.dropWhile isSpace ++ digestMark).takeWhile (· != '@') := by
  rw [imageWithoutDigest,
    stripChars_around front d (by decide) (by rintro _ ⟨⟩; rfl) (by rintro _ ⟨⟩; rfl),
    ← List.append_assoc,
    @List.takeWhile_append _ _ (front.dropWhile isSpace ++ digestMark)]
  refine if_neg fun whole => ?_
  have kept := (List.takeWhile_prefix _).eq_of_length whole
  have marked : '@' ∈ (front.dropWhile isSpace ++ digestMark).takeWhile (· != '@') := by
    rw [kept]
    exact List.mem_append_right _ (by decide)
  exact absurd (List.mem_takeWhile_imp (p := fun c => c != '@') marked) (by decide)

theorem sameButDigest_of_front (front d e : List Char) :
    SameButDigest (front ++ (digestMark ++ d)) (front ++ (digestMark ++ e)) := by
  refine ⟨?_, .inr ⟨front, d, e, rfl, rfl⟩⟩
  simp only [reference, imageWithoutDigest_marked]

end

/-- The images that one pattern of an accepted list allows are one repository and tag. -/
theorem images_pinned (lower : List Char → List Char) (context : String)
    (allowed : List (List Char))
    (accepted : allowedImagePolicyFailureDetails lower context allowed = [])
    (narrow : ∀ pattern ∈ normalizeAllowedImages allowed, NarrowName pattern) :
    ∀ pattern ∈ normalizeAllowedImages allowed, ∀ a b,
      fnmatchcase a pattern = true → imagePolicyFailureDetails lower context a allowed = [] →
      fnmatchcase b pattern = true → imagePolicyFailureDetails lower context b allowed = [] →
      SameButDigest a b := by
  intro pattern among a b of_a _ of_b _
  have single : ∀ t ∈ beforePlain digestMark (tokens pattern), t.Single := by
    intro t in_name
    refine narrow pattern among t in_name ?_
    rintro rfl
    exact star_notMem_name (normalized_stripped among) (allowed_pattern accepted among) in_name
  rw [fnmatchcase] at of_a of_b
  cases beforePlain_eq_or digestMark (tokens pattern) with
  | inl whole =>
    rw [whole] at single
    rw [matchTokens_single single of_a of_b]
    exact ⟨rfl, .inl rfl⟩
  | inr marked =>
    obtain ⟨back, whole⟩ := marked
    rw [whole, matchTokens_append] at of_a of_b
    obtain ⟨front, _, rfl, of_front, of_rest⟩ := of_a
    obtain ⟨front', _, rfl, of_front', of_rest'⟩ := of_b
    obtain rfl : front = front' := matchTokens_single single of_front of_front'
    obtain ⟨mark, d, rfl, of_mark, -⟩ := (matchTokens_append _ _ _).mp of_rest
    obtain ⟨mark', e, rfl, of_mark', -⟩ := (matchTokens_append _ _ _).mp of_rest'
    rw [(matchTokens_plain _ _).mp of_mark, (matchTokens_plain _ _).mp of_mark']
    exact sameButDigest_of_front front d e

def asciiLower (text : List Char) : List Char := text.map Char.toLower

theorem images_pinned_registry :
    allowedImagePolicyFailureDetails asciiLower "sandbox" ["r.io/app:v1@sha256:*".toList] = [] ∧
      SameButDigest "r.io/app:v1@sha256:0f".toList "r.io/app:v1@sha256:1e".toList := by
  have accepted : allowedImagePolicyFailureDetails asciiLower "sandbox"
      ["r.io/app:v1@sha256:*".toList] = [] := by decide +kernel
  refine ⟨accepted, images_pinned asciiLower "sandbox" _ accepted ?_ "r.io/app:v1@sha256:*".toList
    (by decide +kernel) _ _ (by decide +kernel) (by decide +kernel) (by decide +kernel)
    (by decide +kernel)⟩
  intro pattern among t in_name _
  obtain rfl : pattern = "r.io/app:v1@sha256:*".toList := by
    have : normalizeAllowedImages ["r.io/app:v1@sha256:*".toList] =
      ["r.io/app:v1@sha256:*".toList] := by decide +kernel
    rw [this] at among
    exact List.mem_singleton.mp among
  have plain_name : beforePlain digestMark (tokens "r.io/app:v1@sha256:*".toList) =
      plain "r.io/app:v1".toList := by decide +kernel
  rw [plain_name] at in_name
  obtain ⟨c, -, rfl⟩ := List.mem_map.mp in_name
  refine ⟨by simp, fun d e of_d of_e => ?_⟩
  rw [← beq_iff_eq.mp of_d, beq_iff_eq.mp of_e]

/-- A `?` in a pattern's name is not counted as a wildcard: an accepted pattern of two
repositories. -/
theorem two_repositories_allowed :
    allowedImagePolicyFailureDetails asciiLower "sandbox" ["r.io/app?:v1".toList] = [] ∧
      fnmatchcase "r.io/app1:v1".toList "r.io/app?:v1".toList = true ∧
      imagePolicyFailureDetails asciiLower "sandbox" "r.io/app1:v1".toList
        ["r.io/app?:v1".toList] = [] ∧
      fnmatchcase "r.io/app2:v1".toList "r.io/app?:v1".toList = true ∧
      imagePolicyFailureDetails asciiLower "sandbox" "r.io/app2:v1".toList
        ["r.io/app?:v1".toList] = [] ∧
      ¬ SameButDigest "r.io/app1:v1".toList "r.io/app2:v1".toList := by
  refine ⟨by decide +kernel, by decide +kernel, by decide +kernel, by decide +kernel,
    by decide +kernel, fun same => ?_⟩
  exact absurd same.1 (by decide +kernel)

end Taroai.Sandbox
