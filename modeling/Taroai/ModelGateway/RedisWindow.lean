import Mathlib
import Taroai.Lib.Table
import Taroai.Lib.Windows
import Taroai.ModelGateway.RateLimits

/-! `RedisModelProviderRateLimitStore.reserve_request` and its script, over the sorted set of one
tenant and provider. A member of the set is the text of a sample and a nonce, so samples of one
instant are members of their own. Token counts are below those that a number of the script rounds. -/

namespace Taroai.ModelGateway

open Windows

/-- `_sample_member`. -/
structure SampleMember where
  sample : ModelProviderUsageSample
  nonce : String
deriving DecidableEq, Repr

structure ScoredMember where
  score : Time
  member : SampleMember
deriving DecidableEq, Repr

abbrev SampleSet := Table ScoredMember.member

namespace SampleSet

/-- `ZREMRANGEBYSCORE key -inf cutoff`. -/
def removeUpTo (samples : SampleSet) (cutoff : Time) : SampleSet :=
  samples.filter fun entry => decide (cutoff < entry.score)

/-- `ZRANGEBYSCORE key cutoff +inf`, without the order of the members. -/
def since (samples : SampleSet) (cutoff : Time) : List ScoredMember :=
  samples.entries.filter fun entry => cutoff ≤ entry.score

end SampleSet

inductive ReserveError where
  | rateLimited (error : RateLimited)
  | invalidSample
deriving DecidableEq, Repr

/-- `_reserve_request_script`, which Redis runs as one step. -/
def reserveRequestScript (providerId : String) (cutoff nowScore : Time)
    (limit : ModelProviderRateLimit) (reservedTokens : Nat) (member : SampleMember)
    (samples : SampleSet) : Except RateLimited Nat × SampleSet :=
  let samples := samples.removeUpTo cutoff
  let members := samples.since cutoff
  let requestCount := (members.map fun entry => entry.member.sample.requestCount).sum
  let tokenCount := (members.map fun entry => entry.member.sample.totalTokens).sum
  if 0 < limit.maxRequestsPerMinute ∧ limit.maxRequestsPerMinute ≤ requestCount then
    (.error
      { providerId := providerId
        limitType := "requests_per_minute"
        currentQuantity := requestCount
        limit := limit.maxRequestsPerMinute
        requestedQuantity := some 0 }, samples)
  else if 0 < limit.maxTokensPerMinute ∧
      limit.maxTokensPerMinute < tokenCount + reservedTokens then
    (.error
      { providerId := providerId
        limitType := "tokens_per_minute"
        currentQuantity := tokenCount
        limit := limit.maxTokensPerMinute
        requestedQuantity := some reservedTokens }, samples)
  else (.ok (requestCount + 1), samples.put ⟨nowScore, member⟩)

/-- A call of `reserve_request`, with the nonce that `uuid4` gives it. -/
structure ReserveCall where
  now : Time
  reservedTokens : Int
  nonce : String
deriving DecidableEq, Repr

structure ReserveScope where
  provider : ModelProviderConfig
  tenantId : String
  windowSeconds : Nat
deriving DecidableEq, Repr

namespace ReserveScope

variable (scope : ReserveScope)

def window : Time := seconds scope.windowSeconds

def memberOf (call : ReserveCall) : SampleMember where
  sample :=
    { tenantId := scope.tenantId
      providerId := scope.provider.id
      requestCount := 1
      totalTokens := call.reservedTokens.toNat
      createdAt := call.now }
  nonce := call.nonce

/-- `reserve_request`; a sample of negative tokens is not valid. -/
def reserveRequest (call : ReserveCall) (samples : SampleSet) :
    Except ReserveError (Option ModelProviderRateLimitReservation) × SampleSet :=
  let limit := scope.provider.rateLimit
  if limit.maxRequestsPerMinute = 0 ∧ limit.maxTokensPerMinute = 0 then (.ok none, samples)
  else if call.reservedTokens < 0 then (.error .invalidSample, samples)
  else
    let reservedTokens := call.reservedTokens.toNat
    match reserveRequestScript scope.provider.id (call.now - scope.window) call.now limit
      reservedTokens (scope.memberOf call) samples with
    | (.ok _, samples) =>
      (.ok (some ⟨scope.tenantId, scope.provider.id, reservedTokens, call.now⟩), samples)
    | (.error error, samples) => (.error (.rateLimited error), samples)

structure Served where
  samples : SampleSet
  admitted : List ReserveCall

def serve (served : Served) (call : ReserveCall) : Served :=
  match scope.reserveRequest call served.samples with
  | (.ok (some _), samples) => ⟨samples, served.admitted ++ [call]⟩
  | (_, samples) => { served with samples := samples }

def serveAll (samples : SampleSet) (calls : List ReserveCall) : Served :=
  calls.foldl scope.serve ⟨samples, []⟩

theorem serveAll_append (samples : SampleSet) (calls : List ReserveCall) (call : ReserveCall) :
    scope.serveAll samples (calls ++ [call]) = scope.serve (scope.serveAll samples calls) call :=
  List.foldl_concat ..

def stored (f : ModelProviderUsageSample → Nat) (cutoff : Time) (samples : SampleSet) : Nat :=
  total (fun entry => decide (cutoff < entry.score)) (fun entry => f entry.member.sample)
    samples.entries

def granted (g : ReserveCall → Nat) (cutoff : Time) (calls : List ReserveCall) : Nat :=
  total (fun call => decide (cutoff < call.now)) g calls

theorem stored_removeUpTo (f : ModelProviderUsageSample → Nat) {cutoff c : Time} (later : cutoff ≤ c)
    (samples : SampleSet) : stored f c (samples.removeUpTo cutoff) = stored f c samples := by
  refine total_filter fun entry _ here => ?_
  have after : c < entry.score := of_decide_eq_true here
  exact decide_eq_true (later.trans_lt after)

theorem sum_since (f : ModelProviderUsageSample → Nat) (cutoff : Time) (samples : SampleSet) :
    (((samples.removeUpTo cutoff).since cutoff).map fun entry => f entry.member.sample).sum =
      stored f cutoff samples := by
  have same : (samples.removeUpTo cutoff).since cutoff =
      samples.entries.filter fun entry => decide (cutoff < entry.score) := by
    unfold SampleSet.since SampleSet.removeUpTo Table.filter
    refine List.filter_eq_self.mpr fun entry among => ?_
    have after : cutoff < entry.score := of_decide_eq_true (List.mem_filter.mp among).2
    exact decide_eq_true after.le
  rw [same]
  rfl

theorem reserveRequestScript_cases (providerId : String) (cutoff now : Time)
    (limit : ModelProviderRateLimit) (reservedTokens : Nat) (member : SampleMember)
    (samples : SampleSet) :
    (∃ error, reserveRequestScript providerId cutoff now limit reservedTokens member samples =
      (.error error, samples.removeUpTo cutoff)) ∨
    ((∃ count, reserveRequestScript providerId cutoff now limit reservedTokens member samples =
        (.ok count, (samples.removeUpTo cutoff).put ⟨now, member⟩)) ∧
      (0 < limit.maxRequestsPerMinute →
        stored ModelProviderUsageSample.requestCount cutoff samples < limit.maxRequestsPerMinute) ∧
      (0 < limit.maxTokensPerMinute →
        stored ModelProviderUsageSample.totalTokens cutoff samples + reservedTokens ≤
          limit.maxTokensPerMinute)) := by
  unfold reserveRequestScript
  dsimp only
  rw [sum_since ModelProviderUsageSample.requestCount, sum_since ModelProviderUsageSample.totalTokens]
  split_ifs with requests tokens
  · exact .inl ⟨_, rfl⟩
  · exact .inl ⟨_, rfl⟩
  · refine .inr ⟨⟨_, rfl⟩, fun limited => ?_, fun limited => ?_⟩
    · exact Nat.lt_of_not_le fun full => requests ⟨limited, full⟩
    · exact Nat.le_of_not_lt fun exceeded => tokens ⟨limited, exceeded⟩

variable {scope} {samples samples' : SampleSet} {served : Served} {call : ReserveCall}

theorem reserveRequest_refused {error : ReserveError}
    (refused : scope.reserveRequest call samples = (.error error, samples')) :
    samples' = samples ∨ samples' = samples.removeUpTo (call.now - scope.window) := by
  unfold reserveRequest at refused
  dsimp only at refused
  split_ifs at refused with unlimited negative
  · cases refused
  · cases refused
    exact .inl rfl
  · rcases reserveRequestScript_cases scope.provider.id (call.now - scope.window) call.now
      scope.provider.rateLimit call.reservedTokens.toNat (scope.memberOf call) samples with
      ⟨_, answer⟩ | ⟨⟨_, answer⟩, -⟩
    · rw [answer] at refused
      cases refused
      exact .inr rfl
    · rw [answer] at refused
      cases refused

inductive Serves (scope : ReserveScope) (call : ReserveCall) (served : Served) : Served → Prop
  | untouched : Serves scope call served served
  | refused : Serves scope call served
      { served with samples := served.samples.removeUpTo (call.now - scope.window) }
  | admitted
      (requests : 0 < scope.provider.rateLimit.maxRequestsPerMinute →
        stored ModelProviderUsageSample.requestCount (call.now - scope.window) served.samples <
          scope.provider.rateLimit.maxRequestsPerMinute)
      (tokens : 0 < scope.provider.rateLimit.maxTokensPerMinute →
        stored ModelProviderUsageSample.totalTokens (call.now - scope.window) served.samples +
          call.reservedTokens.toNat ≤ scope.provider.rateLimit.maxTokensPerMinute) :
      Serves scope call served
        ⟨(served.samples.removeUpTo (call.now - scope.window)).put ⟨call.now, scope.memberOf call⟩,
          served.admitted ++ [call]⟩

theorem serve_cases (scope : ReserveScope) (served : Served) (call : ReserveCall) :
    Serves scope call served (scope.serve served call) := by
  unfold serve reserveRequest
  dsimp only
  split_ifs with unlimited negative
  · exact .untouched
  · exact .untouched
  · rcases reserveRequestScript_cases scope.provider.id (call.now - scope.window) call.now
      scope.provider.rateLimit call.reservedTokens.toNat (scope.memberOf call) served.samples with
      ⟨_, answer⟩ | ⟨⟨_, answer⟩, requests, tokens⟩
    · rw [answer]
      exact .refused
    · rw [answer]
      exact .admitted requests tokens

def Shows (scope : ReserveScope) (f : ModelProviderUsageSample → Nat) (g : ReserveCall → Nat)
    (instant : Time) (served : Served) : Prop :=
  ∀ cutoff, instant - scope.window ≤ cutoff →
    granted g cutoff served.admitted ≤ stored f cutoff served.samples

theorem Shows.serve {f : ModelProviderUsageSample → Nat} {g : ReserveCall → Nat} {instant : Time}
    {after : Served} (shows_before : Shows scope f g instant served) (later : instant ≤ call.now)
    (new : served.samples.get? (scope.memberOf call) = none)
    (weight : g call = f (scope.memberOf call).sample) (serves : Serves scope call served after) :
    Shows scope f g call.now after := by
  intro cutoff recent
  have before := shows_before cutoff ((Int.sub_le_sub_right later scope.window).trans recent)
  cases serves with
  | untouched => exact before
  | refused =>
    rw [stored_removeUpTo f recent]
    exact before
  | admitted =>
    have absent : (served.samples.removeUpTo (call.now - scope.window)).get?
        (scope.memberOf call) = none := by
      unfold SampleSet.removeUpTo
      rw [Table.get?_eq_none] at new ⊢
      exact fun entry among => new entry (List.mem_of_mem_filter among)
    have kept := stored_removeUpTo f recent served.samples
    unfold stored at kept before ⊢
    rw [Table.entries_put_new absent, total_snoc, kept]
    unfold granted at before ⊢
    rw [total_snoc, weight]
    exact Nat.add_le_add_right before _

theorem Shows.later {f : ModelProviderUsageSample → Nat} {g : ReserveCall → Nat}
    {instant instant' : Time} (shows_then : Shows scope f g instant served)
    (later : instant ≤ instant') : Shows scope f g instant' served :=
  fun cutoff recent => shows_then cutoff ((Int.sub_le_sub_right later scope.window).trans recent)

def Bounded (scope : ReserveScope) (g : ReserveCall → Nat) (bound : Nat) (served : Served) : Prop :=
  ∀ window, Narrow scope.window window →
    total (fun call => window call.now) g served.admitted ≤ bound

theorem Bounded.serve {g : ReserveCall → Nat} {bound : Nat} {after : Served}
    (bounded : Bounded scope g bound served)
    (room : granted g (call.now - scope.window) served.admitted + g call ≤ bound ∨
      after.admitted = served.admitted) (serves : Serves scope call served after) :
    Bounded scope g bound after := by
  intro window narrow
  have before := bounded window narrow
  cases serves with
  | untouched => exact before
  | refused => exact before
  | admitted =>
    rcases room with room | same
    · exact narrow_snoc_le narrow before room
    · rw [same]
      exact before

structure Kept (scope : ReserveScope) (start : SampleSet) (calls : List ReserveCall)
    (served : Served) : Prop where
  known : ∀ entry ∈ served.samples.entries,
    entry ∈ start.entries ∨ ∃ call ∈ calls, entry.member.nonce = call.nonce
  requestsShown : ∀ instant, (∀ call ∈ calls, call.now ≤ instant) →
    Shows scope ModelProviderUsageSample.requestCount (fun _ => 1) instant served
  tokensShown : ∀ instant, (∀ call ∈ calls, call.now ≤ instant) →
    Shows scope ModelProviderUsageSample.totalTokens (fun call => call.reservedTokens.toNat) instant
      served
  requests : 0 < scope.provider.rateLimit.maxRequestsPerMinute →
    Bounded scope (fun _ => 1) scope.provider.rateLimit.maxRequestsPerMinute served
  tokens : 0 < scope.provider.rateLimit.maxTokensPerMinute →
    Bounded scope (fun call => call.reservedTokens.toNat)
      scope.provider.rateLimit.maxTokensPerMinute served

theorem Kept.start (scope : ReserveScope) (start : SampleSet) : Kept scope start [] ⟨start, []⟩ where
  known _ among := .inl among
  requestsShown _ _ _ _ := Nat.zero_le _
  tokensShown _ _ _ _ := Nat.zero_le _
  requests _ _ _ := Nat.zero_le _
  tokens _ _ _ := Nat.zero_le _

theorem Kept.serve {start : SampleSet} {calls : List ReserveCall}
    (kept : Kept scope start calls served) (later : ∀ earlier ∈ calls, earlier.now ≤ call.now)
    (fresh : ∀ earlier ∈ calls, earlier.nonce ≠ call.nonce)
    (new : ∀ entry ∈ start.entries, entry.member.nonce ≠ call.nonce) :
    Kept scope start (calls ++ [call]) (scope.serve served call) := by
  have serves := serve_cases scope served call
  have requests_shown := kept.requestsShown call.now later
  have tokens_shown := kept.tokensShown call.now later
  have absent : served.samples.get? (scope.memberOf call) = none := by
    rw [Table.get?_eq_none]
    intro entry among same
    have nonce : entry.member.nonce = call.nonce := congrArg SampleMember.nonce same
    rcases kept.known entry among with old | ⟨earlier, listed, alike⟩
    · exact new entry old nonce
    · exact fresh earlier listed (alike.symm.trans nonce)
  have last : ∀ {instant}, (∀ other ∈ calls ++ [call], other.now ≤ instant) → call.now ≤ instant :=
    fun bounded => bounded call (List.mem_append_right _ (List.mem_singleton_self call))
  refine ⟨?_, fun instant bounded => ?_, fun instant bounded => ?_, fun limited => ?_,
    fun limited => ?_⟩
  · have widen : ∀ entry : ScoredMember, entry ∈ start.entries ∨
        (∃ earlier ∈ calls, entry.member.nonce = earlier.nonce) →
        entry ∈ start.entries ∨ ∃ other ∈ calls ++ [call], entry.member.nonce = other.nonce :=
      fun entry => Or.imp_right fun ⟨earlier, listed, same⟩ =>
        ⟨earlier, List.mem_append_left _ listed, same⟩
    intro entry among
    generalize scope.serve served call = after at serves among
    cases serves with
    | untouched => exact widen entry (kept.known entry among)
    | refused => exact widen entry (kept.known entry (List.mem_of_mem_filter among))
    | admitted =>
      rcases Table.mem_put.mp among with rfl | ⟨old, -⟩
      · exact .inr ⟨call, List.mem_append_right _ (List.mem_singleton_self call), rfl⟩
      · exact widen entry (kept.known entry (List.mem_of_mem_filter old))
  · exact (requests_shown.serve (le_refl _) absent rfl serves).later (last bounded)
  · exact (tokens_shown.serve (le_refl _) absent rfl serves).later (last bounded)
  · refine (kept.requests limited).serve ?_ serves
    have shown := requests_shown (call.now - scope.window) (le_refl _)
    generalize scope.serve served call = after at serves ⊢
    cases serves with
    | untouched => exact .inr rfl
    | refused => exact .inr rfl
    | admitted room _ =>
      have below := room limited
      exact .inl (by omega)
  · refine (kept.tokens limited).serve ?_ serves
    have shown := tokens_shown (call.now - scope.window) (le_refl _)
    generalize scope.serve served call = after at serves ⊢
    cases serves with
    | untouched => exact .inr rfl
    | refused => exact .inr rfl
    | admitted _ room =>
      have below := room limited
      exact .inl (by omega)

theorem kept_serveAll (scope : ReserveScope) (start : SampleSet) {calls : List ReserveCall}
    (ordered : calls.Pairwise fun earlier later => earlier.now ≤ later.now)
    (fresh : (calls.map ReserveCall.nonce).Nodup)
    (new : ∀ call ∈ calls, ∀ entry ∈ start.entries, entry.member.nonce ≠ call.nonce) :
    Kept scope start calls (scope.serveAll start calls) := by
  induction calls using List.reverseRecOn with
  | nil => exact Kept.start scope start
  | append_singleton calls call ih =>
    rw [List.pairwise_append] at ordered
    rw [List.map_append, List.nodup_append] at fresh
    have listed : call ∈ calls ++ [call] := List.mem_append_right _ (List.mem_singleton_self call)
    have before := ih ordered.1 fresh.1 fun earlier among => new earlier (List.mem_append_left _ among)
    rw [serveAll_append]
    refine before.serve (fun earlier among => ?_) (fun earlier among => ?_) (new call listed)
    · exact ordered.2.2 earlier among call (List.mem_singleton_self call)
    · exact fresh.2.2 _ (List.mem_map_of_mem among) _ (List.mem_singleton_self _)

/-- Calls in the order of their instants, whatever the set held before: in every window the
admitted calls and their tokens are within the limits, and a refused call only drops what is out
of its window. -/
theorem window_within_limits (scope : ReserveScope) (start : SampleSet) (calls : List ReserveCall)
    (ordered : calls.Pairwise fun earlier later => earlier.now ≤ later.now)
    (fresh : (calls.map ReserveCall.nonce).Nodup)
    (new : ∀ call ∈ calls, ∀ entry ∈ start.entries, entry.member.nonce ≠ call.nonce) :
    (∀ window, Narrow scope.window window →
      (0 < scope.provider.rateLimit.maxRequestsPerMinute →
        (scope.serveAll start calls).admitted.countP (fun call => window call.now) ≤
          scope.provider.rateLimit.maxRequestsPerMinute) ∧
      (0 < scope.provider.rateLimit.maxTokensPerMinute →
        (((scope.serveAll start calls).admitted.filter fun call => window call.now).map
          fun call => call.reservedTokens.toNat).sum ≤
          scope.provider.rateLimit.maxTokensPerMinute)) ∧
    ∀ before call rest error samples, calls = before ++ call :: rest →
      scope.reserveRequest call (scope.serveAll start before).samples = (.error error, samples) →
      samples = (scope.serveAll start before).samples ∨
        samples = (scope.serveAll start before).samples.removeUpTo (call.now - scope.window) := by
  have kept := kept_serveAll scope start ordered fresh new
  refine ⟨fun window narrow => ⟨fun limited => ?_, fun limited => ?_⟩, ?_⟩
  · have bound := kept.requests limited window narrow
    unfold total at bound
    rw [List.countP_eq_length_filter]
    simpa using bound
  · exact kept.tokens limited window narrow
  · exact fun before call rest error samples _ refused => reserveRequest_refused refused

def oneAMinute : ReserveScope := ⟨{ id := "main", rateLimit := ⟨1, 0⟩ }, "acme", 60⟩

def threeCalls : List ReserveCall := [⟨0, 5, "a"⟩, ⟨0, 5, "b"⟩, ⟨60000000, 5, "c"⟩]

theorem window_within_limits_minute :
    (oneAMinute.serveAll .empty threeCalls).admitted.countP
      (fun call => decide (0 ≤ call.now ∧ call.now < 0 + oneAMinute.window)) ≤ 1 :=
  ((window_within_limits oneAMinute .empty threeCalls (by decide) (by decide) (by decide)).1 _
    (narrow_starting oneAMinute.window 0)).1 (by decide)

end ReserveScope

end Taroai.ModelGateway
