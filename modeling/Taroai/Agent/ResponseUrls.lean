import Taroai.Agent.ObservationRead
import Taroai.Agent.UrlReading
import Taroai.Lib.Urls
import Mathlib.Data.List.Dedup

/-! `_unsupported_response_urls` and `_ground_chat_response_url`, with which a chat response keeps
only URLs that the state of the run supports. How a float is written, how a value that is not a
text reads as one, `str.lower` and the network locations that `urlsplit` refuses are parameters. -/

namespace Taroai.Agent.ResponseUrls

open Json UrlReading
open ObservationRead (textOr)
open Unquote (unquote)
open UrlSplit (urlsplit hostname)

structure Observation where
  actionId : String
  success : Bool
  output : Items
  error : Option String := none
  safeError : Option String := none
  failureClass : Option String := none
  createdAt : String

structure State where
  goal : String
  conversation : Json
  knowledge : List Json
  observations : List Observation
  steeringMessages : List String

structure Texts where
  float : Rat → String
  str : Json → String
  lower : List Char → List Char
  refused : List Char → Bool

def optional : Option String → Json
  | none => .null
  | some value => .text value

/-- `observation.model_dump(mode="json")` -/
def Observation.dump (observation : Observation) : Json := .dict [
  ("action_id", .text observation.actionId),
  ("success", .bool observation.success),
  ("output", .dict observation.output),
  ("error", optional observation.error),
  ("safe_error", optional observation.safeError),
  ("failure_class", optional observation.failureClass),
  ("created_at", .text observation.createdAt)]

variable (texts : Texts) (state : State)

def evidence : List Char := dumpsUnicode texts.float (.dict [
  ("goal", .text state.goal),
  ("conversation", state.conversation),
  ("knowledge", .list state.knowledge),
  ("observations", .list (state.observations.map Observation.dump)),
  ("steering_messages", .list (state.steeringMessages.map .text))])

/-- `unquote(url.rstrip("/")) in decoded_evidence` -/
def supported (url : List Char) : Bool :=
  (unquote (evidence texts state)).tails.any fun rest =>
    (unquote (url.rdropWhile fun c => c = '/')).isPrefixOf rest

def unsupportedResponseUrls (responseText : List Char) : List (List Char) :=
  ((urlsIn responseText).filter fun url => !supported texts state url).dedup

/-- `ValueError` of `urlsplit`. -/
inductive UrlError where
  | invalid
deriving DecidableEq

/-- `(urlsplit(url).hostname or "").removeprefix("www.")` -/
def hostOf (url : List Char) : Except UrlError (List Char) :=
  match urlsplit texts.refused url with
  | none => .error .invalid
  | some parts =>
    let host := (hostname texts.lower parts).getD []
    .ok (if "www.".toList.isPrefixOf host then host.drop 4 else host)

/-- `str(observation.output.get("url") or "")` -/
def targetOf (observation : Observation) : List Char :=
  (textOr texts.str ((observation.output.get? "url").getD .null)).toList

def findTarget (sourceHost : List Char) : List Observation →
    Except UrlError (Option (List Char))
  | [] => .ok none
  | observation :: rest => do
    let target := targetOf texts observation
    let targetHost ← hostOf texts target
    if observation.success = true ∧ sourceHost ≠ [] ∧ targetHost = sourceHost then
      return some target
    else findTarget sourceHost rest

def replacement (responseText : List Char) : Except UrlError (Option (List Char × List Char)) :=
  match unsupportedResponseUrls texts state responseText with
  | [source] =>
    match hostOf texts source with
    | .error e => .error e
    | .ok sourceHost =>
      (findTarget texts sourceHost state.observations.reverse).map fun target =>
        target.map fun target => (source, target)
  | _ => .ok none

def groundChatResponseUrl (responseText : List Char) : Except UrlError (Option (List Char)) :=
  (replacement texts state responseText).map fun found =>
    found.map fun (source, target) => replaceAll source target responseText

/-- Only supported URLs are left, and those that were supported are there as they were. -/
structure Grounded (responseText grounded : List Char) : Prop where
  none_unsupported : unsupportedResponseUrls texts state grounded = []
  kept : ∀ url ∈ urlsIn responseText, supported texts state url = true → url ∈ urlsIn grounded

def ApartFrom (responseText source : List Char) : Prop :=
  ∀ url ∈ urlsIn responseText, supported texts state url = true → ¬source <:+: url

/-- Where the URL to replace stands, what touches it makes no URL with the target. -/
def StandsAlone (responseText source target : List Char) : Prop :=
  ∀ word ∈ wordsOf responseText, ∀ front url, cutUrl word = some (front, url) →
    trimmed url = source → Alone front target (url.drop source.length)

theorem urlsIn_words (text : List Char) : urlsIn text = (wordsOf text).flatMap urlsIn := by
  induction text using word_induction with
  | last word body => rw [wordsOf_word body, List.flatMap_singleton]
  | next word sep rest body outside ih =>
    rw [wordsOf_append body outside, List.flatMap_cons, ← ih, urlsIn, urlsIn, urlsIn,
      findUrls_append_cut false word outside, List.map_append]

theorem urlsIn_append_cut (text : List Char) {sep : Char} (outside : bodyChar sep = false)
    (rest : List Char) : urlsIn (text ++ sep :: rest) = urlsIn text ++ urlsIn rest := by
  rw [urlsIn, findUrls_append_cut false text outside, List.map_append]
  rfl

section
variable {source target : List Char}

theorem urlsIn_putUrl {word : List Char} (body : word.all bodyChar = true)
    (alone : ∀ front url, cutUrl word = some (front, url) → trimmed url = source →
      Alone front target (url.drop source.length)) :
    urlsIn (putUrl source target word) =
      if urlsIn word = [source] then urlsIn target else urlsIn word := by
  unfold putUrl
  cases parts : cutUrl word with
  | none =>
    have none : urlsIn word = [] := by rw [urlsIn_word body, parts]; rfl
    rw [none, if_neg (by simp)]
  | some parts' =>
    obtain ⟨front, url⟩ := parts'
    have one : urlsIn word = [trimmed url] := by rw [urlsIn_word body, parts]; rfl
    dsimp only
    by_cases same : trimmed url = source
    · obtain ⟨trail, whole, drops⟩ := trimmed_parts url
      have dropped : url.drop source.length = trail := by
        rw [same] at whole
        rw [whole, List.drop_left]
      have placed := alone front url parts same
      rw [dropped] at placed ⊢
      rw [if_pos same, one, same, if_pos rfl, urlsIn_alone placed drops]
    · rw [if_neg same, one, if_neg (by simpa using same)]

theorem urlsIn_replaceAll (replaceable : Replaceable source) {text : List Char}
    (apart : ∀ url ∈ urlsIn text, url ≠ source → ¬source <:+: url)
    (alone : StandsAlone text source target) :
    urlsIn (replaceAll source target text) = (wordsOf text).flatMap fun word =>
      if urlsIn word = [source] then urlsIn target else urlsIn word := by
  induction text using word_induction with
  | last word body =>
    have placed : replaceAll source target word = putUrl source target word := by
      have replaced : replaceAll source target (word ++ []) =
          putUrl source target word ++ replaceAll source target [] :=
        replaceAll_word replaceable apart body cut_nil
      simpa [replaceAll, replaceFrom] using replaced
    have only := wordsOf_word body
    rw [placed, only, List.flatMap_singleton]
    exact urlsIn_putUrl body (alone word (by rw [only]; exact List.mem_cons_self))
  | next word sep rest body outside ih =>
    rw [urlsIn_append_cut word outside, List.forall_mem_append] at apart
    have words := wordsOf_append body outside rest
    have first := alone word (by rw [words]; exact List.mem_cons_self)
    have others : StandsAlone rest source target := fun other among =>
      alone other (by rw [words]; exact List.mem_cons_of_mem _ among)
    have separator : replaceAll source target ([sep] ++ rest) =
        [sep] ++ replaceAll source target rest := by
      refine replaceAll_kept fun part some suffix starts => ?_
      have begun := replaceable.begins_of_prefix starts
      have whole : part = [sep] := by
        obtain same | shorter := List.suffix_cons_iff.mp suffix
        · exact same
        · exact absurd (List.suffix_nil.mp shorter) some
      rw [whole, List.singleton_append] at begun
      have silent := begins_append_cut (cut_cons outside rest) []
      rw [List.nil_append, begun, begins_nil] at silent
      cases silent
    rw [List.singleton_append, List.singleton_append] at separator
    rw [replaceAll_word replaceable apart.1 body (cut_cons outside rest), separator,
      urlsIn_append_cut _ outside, ih apart.2 others, words, List.flatMap_cons,
      urlsIn_putUrl body first]

end

theorem begins_of_mem_findUrls {url text : List Char} (among : url ∈ findUrls false text) :
    begins url = true ∧ url.all bodyChar = true := by
  have of_word : ∀ word : List Char, word.all bodyChar = true → url ∈ findUrls false word →
      begins url = true ∧ url.all bodyChar = true := by
    intro word body among
    rw [findUrls_word body] at among
    cases parts : cutUrl word with
    | none =>
      rw [parts] at among
      cases among
    | some parts' =>
      obtain ⟨front, url'⟩ := parts'
      rw [parts] at among
      obtain rfl : url = url' := List.mem_singleton.mp among
      obtain ⟨rfl, starts, -⟩ := cutUrl_some parts
      rw [List.all_append, Bool.and_eq_true] at body
      exact ⟨starts, body.2⟩
  induction text using word_induction with
  | last word body => exact of_word word body among
  | next word sep rest body outside ih =>
    rw [findUrls_append_cut false word outside] at among
    obtain here | later := List.mem_append.mp among
    · exact of_word word body here
    · exact ih later

theorem hostOf_scheme {scheme : List Char} (known : scheme ∈ schemes) {host : List Char}
    (read : hostOf texts scheme = .ok host) : host = [] := by
  have split : ∀ scheme ∈ schemes, ∀ refused parts, urlsplit refused scheme = some parts →
      parts.netloc = [] := by
    have each : ∀ scheme ∈ schemes,
        UrlSplit.splitNetloc (UrlSplit.splitScheme (UrlSplit.cleaned scheme)).2 = ([], []) := by
      decide
    intro scheme known refused parts done
    unfold urlsplit at done
    simp only [each scheme known] at done
    split at done
    · cases done
    · obtain rfl := Option.some.inj done
      rfl
  unfold hostOf at read
  cases done : urlsplit texts.refused scheme with
  | none =>
    rw [done] at read
    cases read
  | some parts =>
    rw [done] at read
    have unnamed : hostname texts.lower parts = none := by
      unfold hostname
      rw [split scheme known texts.refused parts done]
      rfl
    simp only [unnamed] at read
    exact (Except.ok.inj read).symm

theorem replaceable_of_host {text source host : List Char} (among : source ∈ urlsIn text)
    (read : hostOf texts source = .ok host) (some : host ≠ []) : Replaceable source := by
  obtain ⟨url, found, rfl⟩ := List.mem_map.mp among
  obtain ⟨starts, body⟩ := begins_of_mem_findUrls found
  obtain ⟨scheme, known, c, rest, rfl, -⟩ := begins_iff.mp starts
  have cut := trimmed_append (schemes_last scheme known) (c :: rest)
  obtain ⟨trail, whole, -⟩ := trimmed_parts (scheme ++ c :: rest)
  rw [whole, List.all_append, Bool.and_eq_true] at body
  refine ⟨?_, body.1, trimmed_last _⟩
  cases more : trimmed (c :: rest) with
  | nil =>
    rw [cut, more, List.append_nil] at read
    exact absurd (hostOf_scheme texts known read) some
  | cons d others =>
    rw [more] at cut
    have kept := body.1
    rw [cut, List.all_append, List.all_cons, Bool.and_eq_true, Bool.and_eq_true] at kept
    exact begins_iff.mpr ⟨scheme, known, d, others, cut, kept.2.1⟩

theorem findTarget_host {host target : List Char} {observations : List Observation}
    (found : findTarget texts host observations = .ok (some target)) : host ≠ [] := by
  induction observations with
  | nil =>
    rw [findTarget] at found
    cases Except.ok.inj found
  | cons observation rest ih =>
    rw [findTarget] at found
    obtain ⟨targetHost, -, next⟩ := Json.except_bind_ok.mp found
    split at next
    · rename_i chosen
      exact chosen.2.1
    · exact ih next

theorem replacement_eq {text source target : List Char}
    (found : replacement texts state text = .ok (some (source, target))) :
    unsupportedResponseUrls texts state text = [source] ∧ Replaceable source := by
  unfold replacement at found
  split at found
  · rename_i source' only
    split at found
    · cases found
    · rename_i host read
      obtain ⟨target', chosen, same⟩ := Json.except_map_ok.mp found
      obtain ⟨target'', rfl, pair⟩ := Option.map_eq_some_iff.mp same
      obtain ⟨rfl, rfl⟩ := Prod.mk.inj pair
      have among : source' ∈ unsupportedResponseUrls texts state text := by
        rw [only]
        exact List.mem_singleton_self _
      have read_in := (List.mem_filter.mp (List.mem_dedup.mp among)).1
      exact ⟨only, replaceable_of_host texts read_in read (findTarget_host texts chosen)⟩
  · cases found

theorem mem_unsupported {text url : List Char} :
    url ∈ unsupportedResponseUrls texts state text ↔
      url ∈ urlsIn text ∧ supported texts state url = false := by
  rw [unsupportedResponseUrls, List.mem_dedup, List.mem_filter, Bool.not_eq_true']

theorem wordsOf_body {text : List Char} : ∀ word ∈ wordsOf text, word.all bodyChar = true := by
  induction text using word_induction with
  | last word body =>
    rw [wordsOf_word body]
    exact List.forall_mem_singleton.mpr body
  | next word sep rest body outside ih =>
    rw [wordsOf_append body outside]
    exact List.forall_mem_cons.mpr ⟨body, ih⟩

theorem mem_urlsIn_replaceAll {text source target : List Char} (replaceable : Replaceable source)
    (apart : ∀ url ∈ urlsIn text, url ≠ source → ¬source <:+: url)
    (alone : StandsAlone text source target) (among : source ∈ urlsIn text) {url : List Char} :
    url ∈ urlsIn (replaceAll source target text) ↔
      (url ∈ urlsIn text ∧ url ≠ source) ∨ url ∈ urlsIn target := by
  have single : ∀ word ∈ wordsOf text, ∀ url, url ∈ urlsIn word → urlsIn word = [url] := by
    intro word listed url here
    rw [urlsIn_word (wordsOf_body word listed), Option.mem_toList] at here
    rw [urlsIn_word (wordsOf_body word listed), here]
    rfl
  rw [urlsIn_replaceAll replaceable apart alone, List.mem_flatMap]
  rw [urlsIn_words, List.mem_flatMap] at among
  constructor
  · rintro ⟨word, listed, here⟩
    split at here
    · exact .inr here
    · rename_i other
      refine .inl ⟨?_, ?_⟩
      · rw [urlsIn_words, List.mem_flatMap]
        exact ⟨word, listed, here⟩
      · rintro rfl
        exact other (single word listed url here)
  · rintro (⟨here, differ⟩ | there)
    · rw [urlsIn_words, List.mem_flatMap] at here
      obtain ⟨word, listed, here⟩ := here
      refine ⟨word, listed, ?_⟩
      rw [if_neg]
      · exact here
      · intro only
        rw [only] at here
        exact differ (List.mem_singleton.mp here)
    · obtain ⟨word, listed, here⟩ := among
      refine ⟨word, listed, ?_⟩
      rw [if_pos (single word listed source here)]
      exact there

def asciiTexts : Texts where
  float _ := "0.0"
  str _ := ""
  lower text := text.map Char.toLower
  refused _ := false

def fetched (url : String) : State where
  goal := "What does the page say?"
  conversation := .null
  knowledge := []
  observations := [{
    actionId := "action_1"
    success := true
    output := [("url", .text url)]
    createdAt := "2026-01-01T00:00:00Z" }]
  steeringMessages := []

def cited : List Char := "See https://a.com/y.".toList

end Taroai.Agent.ResponseUrls
