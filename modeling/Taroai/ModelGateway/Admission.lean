import Mathlib
import Taroai.Lib.Machine
import Taroai.Lib.Windows
import Taroai.ModelGateway.RateLimits

/-! Provider calls in a window of the configured length. The samples of the limiter show the
calls that were reserved at their admission and those whose success was recorded; a call that is
in flight or has failed without a reservation is not shown. -/

namespace Taroai.ModelGateway

open Windows

def ProviderCall.inScope (tenantId providerId : String) (call : ProviderCall) : Bool :=
  call.tenantId = tenantId && call.providerId = providerId

def ModelProviderUsageSample.inScope (tenantId providerId : String)
    (sample : ModelProviderUsageSample) : Bool :=
  sample.tenantId = tenantId && sample.providerId = providerId

namespace ProviderCall

def shownRequests (call : ProviderCall) : Nat :=
  if call.reservation.isSome || call.recorded.isSome then 1 else 0

def shownTokens (call : ProviderCall) : Nat :=
  if call.reservation.isSome then call.tokens else call.recorded.getD 0

def hiddenRequests (call : ProviderCall) : Nat := 1 - call.shownRequests

def hiddenTokens (call : ProviderCall) : Nat := call.tokens - call.shownTokens

end ProviderCall

namespace ModelProviderRateLimiter

/-- The samples that `assert_allowed` sums up. -/
def recentSamples (l : ModelProviderRateLimiter) (tenantId providerId : String) (now : Time) :
    List ModelProviderUsageSample :=
  (l.pruneBefore tenantId (now - l.window)).listRecentSamples tenantId providerId (now - l.window)

end ModelProviderRateLimiter

namespace Gateway

/-- No window of the configured length has more provider calls of a tenant, or more tokens they
were admitted with, than the limits of the provider. -/
structure WithinLimits (s : Gateway) : Prop where
  requests : ∀ tenantId providerId, 0 < (s.providers providerId).rateLimit.maxRequestsPerMinute →
    ∀ instant, total (inWindow ProviderCall.startedAt s.limiter.window
        (ProviderCall.inScope tenantId providerId) instant) (fun _ => 1) s.calls ≤
      (s.providers providerId).rateLimit.maxRequestsPerMinute
  tokens : ∀ tenantId providerId, 0 < (s.providers providerId).rateLimit.maxTokensPerMinute →
    ∀ instant, total (inWindow ProviderCall.startedAt s.limiter.window
        (ProviderCall.inScope tenantId providerId) instant) ProviderCall.tokens s.calls ≤
      (s.providers providerId).rateLimit.maxTokensPerMinute

def hidden (s : Gateway) (f : ProviderCall → Nat) (tenantId providerId : String) : Nat :=
  total (after ProviderCall.startedAt (ProviderCall.inScope tenantId providerId)
    (s.now - s.limiter.window)) f s.calls

/-- What a check without a reservation would have to look at: where it lets a request through,
the samples it sums up and the calls of the window that they do not show leave room for it. -/
def LeavesRoom (s : Gateway) : Label → Prop
  | .reserve i => ∀ call provider rest, s.requests[i]? = some call → call.candidates = provider :: rest →
    s.limiter.backend ≠ .redis →
    (s.limiter.assertAllowed provider call.request.tenantId s.now).1 = .ok () →
    let samples := s.limiter.recentSamples call.request.tenantId provider.id s.now
    (0 < provider.rateLimit.maxRequestsPerMinute →
      ModelProviderRateLimiter.requestCount samples +
          s.hidden ProviderCall.hiddenRequests call.request.tenantId provider.id <
        provider.rateLimit.maxRequestsPerMinute) ∧
    (0 < provider.rateLimit.maxTokensPerMinute →
      ModelProviderRateLimiter.tokenCount samples +
          s.hidden ProviderCall.hiddenTokens call.request.tenantId provider.id +
          ModelProviderRateLimiter.reservedTokensForRequest provider call.request ≤
        provider.rateLimit.maxTokensPerMinute)
  | _ => True

/-- The samples after the instant show what the calls after it have had reserved or recorded. -/
structure Shows (samples : List ModelProviderUsageSample) (calls : List ProviderCall)
    (tenantId providerId : String) (instant : Time) : Prop where
  requests : total (after ProviderCall.startedAt (ProviderCall.inScope tenantId providerId) instant)
      ProviderCall.shownRequests calls ≤
    total (after ModelProviderUsageSample.createdAt
      (ModelProviderUsageSample.inScope tenantId providerId) instant)
      ModelProviderUsageSample.requestCount samples
  tokens : total (after ProviderCall.startedAt (ProviderCall.inScope tenantId providerId) instant)
      ProviderCall.shownTokens calls ≤
    total (after ModelProviderUsageSample.createdAt
      (ModelProviderUsageSample.inScope tenantId providerId) instant)
      ModelProviderUsageSample.totalTokens samples

/-- The candidates of a gateway call are registered providers, and its call in flight is one of
its tenant. -/
structure Fits (providers : String → ModelProviderConfig) (calls : List ProviderCall)
    (request : GatewayCall) : Prop where
  registered : ∀ provider ∈ request.candidates, providers provider.id = provider
  calling : ∀ id, request.calling = some id →
    ∃ call, calls[id]? = some call ∧ call.tenantId = request.request.tenantId

structure Inv (s : Gateway) : Prop where
  started : ∀ call ∈ s.calls, call.startedAt ≤ s.now
  fits : ∀ request ∈ s.requests, Fits s.providers s.calls request
  reservedTokens : ∀ call ∈ s.calls, ∀ reservation, call.reservation = some reservation →
    reservation.reservedTokens = call.tokens
  reserved : s.limiter.backend = .redis → ∀ call ∈ s.calls,
    (s.providers call.providerId).rateLimit.enabled = true → call.reservation.isSome = true
  shows : ∀ tenantId providerId instant, s.now - s.limiter.window ≤ instant →
    Shows s.limiter.samples s.calls tenantId providerId instant

end Gateway

section Samples

variable {l l' : ModelProviderRateLimiter} {now : Time}

structure Keeps (l l' : ModelProviderRateLimiter) (now : Time) : Prop where
  backend : l'.backend = l.backend
  windowSeconds : l'.windowSeconds = l.windowSeconds
  samples : ∀ (tenantId providerId : String) (instant : Time), now - l.window ≤ instant →
    ∀ f : ModelProviderUsageSample → Nat,
      total (after ModelProviderUsageSample.createdAt
        (ModelProviderUsageSample.inScope tenantId providerId) instant) f l.samples ≤
      total (after ModelProviderUsageSample.createdAt
        (ModelProviderUsageSample.inScope tenantId providerId) instant) f l'.samples

theorem Keeps.refl (l : ModelProviderRateLimiter) (now : Time) : Keeps l l now :=
  ⟨rfl, rfl, fun _ _ _ _ _ => Nat.le_refl _⟩

theorem Keeps.window (keeps : Keeps l l' now) : l'.window = l.window := by
  unfold ModelProviderRateLimiter.window
  rw [keeps.windowSeconds]

theorem keeps_filter (q : ModelProviderUsageSample → Bool)
    (recent : ∀ sample ∈ l.samples, now - l.window < sample.createdAt → q sample = true) :
    Keeps l { l with samples := l.samples.filter q } now := by
  refine ⟨rfl, rfl, fun tenantId providerId instant inside f => ?_⟩
  dsimp only
  rw [total_filter]
  intro sample member here
  unfold after at here
  simp only [Bool.and_eq_true, decide_eq_true_eq] at here
  exact recent sample member (lt_of_le_of_lt inside here.2)

theorem keeps_pruneBefore (tenantId : String) : Keeps l (l.pruneBefore tenantId (now - l.window)) now := by
  refine keeps_filter _ fun sample member recent => ?_
  cases l.backend with
  | limiter => exact decide_eq_true (le_of_lt recent)
  | inMemory => simp [le_of_lt recent]
  | sql => simp [le_of_lt recent]
  | redis => simp [recent]

/-- The samples that are summed up are not fewer than those after the beginning of the window. -/
theorem total_le_listed (keeps : Keeps l l' now) (tenantId providerId : String)
    (f : ModelProviderUsageSample → Nat) :
    total (after ModelProviderUsageSample.createdAt
        (ModelProviderUsageSample.inScope tenantId providerId) (now - l.window)) f l.samples ≤
      ((l'.listRecentSamples tenantId providerId (now - l.window)).map f).sum := by
  refine Nat.le_trans (keeps.samples tenantId providerId _ (le_refl _) f) ?_
  refine total_le (fun sample _ here => ?_) fun _ _ _ => Nat.le_refl _
  unfold after ModelProviderUsageSample.inScope at here
  simp only [Bool.and_eq_true, decide_eq_true_eq] at here ⊢
  exact ⟨here.1, le_of_lt here.2⟩

open ModelProviderRateLimiter

variable (l) in
/-- A request that Redis admits has room among the samples, and is one of them after it. -/
structure ReservedBy (provider : ModelProviderConfig) (request : ModelGatewayRequest)
    (now : Time) (before : ModelProviderRateLimiter) : Prop where
  keeps : Keeps l before now
  requests : 0 < provider.rateLimit.maxRequestsPerMinute →
    requestCount (before.listRecentSamples request.tenantId provider.id (now - l.window)) <
      provider.rateLimit.maxRequestsPerMinute
  tokens : 0 < provider.rateLimit.maxTokensPerMinute →
    tokenCount (before.listRecentSamples request.tenantId provider.id (now - l.window)) +
        reservedTokensForRequest provider request ≤ provider.rateLimit.maxTokensPerMinute

inductive Reserved (l : ModelProviderRateLimiter) (provider : ModelProviderConfig)
    (request : ModelGatewayRequest) (now : Time) :
    Except RateLimited (Option ModelProviderRateLimitReservation) × ModelProviderRateLimiter → Prop
  | refused (e : RateLimited) (l' : ModelProviderRateLimiter) (keeps : Keeps l l' now) :
    Reserved l provider request now (.error e, l')
  | unlimited (disabled : provider.rateLimit.enabled = false) :
    Reserved l provider request now (.ok none, l)
  | checked (backend : l.backend ≠ .redis)
    (allowed : (l.assertAllowed provider request.tenantId now).1 = .ok ())
    (l' : ModelProviderRateLimiter) (keeps : Keeps l l' now) :
    Reserved l provider request now (.ok none, l')
  | reserved (redis : l.backend = .redis) (before : ModelProviderRateLimiter)
    (room : ReservedBy l provider request now before) :
    Reserved l provider request now
      (.ok (some ⟨request.tenantId, provider.id, reservedTokensForRequest provider request, now⟩),
        { before with samples := before.samples ++
          [⟨request.tenantId, provider.id, 1, reservedTokensForRequest provider request, now⟩] })

theorem assertAllowed_keeps (provider : ModelProviderConfig) (tenantId : String) :
    Keeps l (l.assertAllowed provider tenantId now).2 now := by
  unfold assertAllowed
  dsimp only
  split
  · exact keeps_pruneBefore tenantId
  · split
    · exact keeps_pruneBefore tenantId
    · exact keeps_pruneBefore tenantId

theorem reserveRequestWithScript_reserved (provider : ModelProviderConfig)
    (request : ModelGatewayRequest) :
    (∃ e l', l.reserveRequestWithScript provider request.tenantId
        (reservedTokensForRequest provider request) now = (.error e, l') ∧ Keeps l l' now) ∨
      ∃ before, ReservedBy l provider request now before ∧
        l.reserveRequestWithScript provider request.tenantId
          (reservedTokensForRequest provider request) now =
        (.ok (), { before with samples := before.samples ++
          [⟨request.tenantId, provider.id, 1, reservedTokensForRequest provider request, now⟩] }) := by
  have keeps := @keeps_filter l now (fun sample => sample.tenantId ≠ request.tenantId ||
    sample.providerId ≠ provider.id || now - l.window < sample.createdAt)
    fun sample _ recent => by simp [recent]
  unfold reserveRequestWithScript
  dsimp only
  split
  · exact .inl ⟨_, _, rfl, keeps⟩
  · next requests =>
    split
    · exact .inl ⟨_, _, rfl, keeps⟩
    · next tokens =>
      refine .inr ⟨_, ⟨keeps, fun limited => ?_, fun limited => ?_⟩, rfl⟩
      · exact Nat.lt_of_not_le fun full => requests ⟨limited, full⟩
      · exact Nat.le_of_not_lt fun full => tokens ⟨limited, full⟩

theorem reserve_reserved (provider : ModelProviderConfig) (request : ModelGatewayRequest) :
    Reserved l provider request now (l.reserve provider request now) := by
  unfold reserve
  split
  · next disabled => exact .unlimited disabled
  · split
    · next redis =>
      obtain ⟨e, l', answer, keeps⟩ | ⟨before, room, answer⟩ :=
        @reserveRequestWithScript_reserved l now provider request
      · dsimp only
        rw [answer]
        exact .refused e l' keeps
      · dsimp only
        rw [answer]
        exact .reserved redis before room
    all_goals
      next backend =>
        have other : l.backend ≠ .redis := by simp [backend]
        have keeps := @assertAllowed_keeps l now provider request.tenantId
        cases answer : l.assertAllowed provider request.tenantId now with
        | mk result l' =>
          rw [answer] at keeps
          cases result with
          | ok =>
            refine .checked other ?_ l' keeps
            rw [answer]
          | error e => exact .refused e l' keeps

end Samples

section Calls

variable {calls : List ProviderCall} {tenantId providerId : String} {instant : Time}

theorem shown_add_hidden (call : ProviderCall) : call.shownRequests + call.hiddenRequests = 1 := by
  unfold ProviderCall.hiddenRequests ProviderCall.shownRequests
  split <;> rfl

theorem tokens_le_shown_add_hidden (call : ProviderCall) :
    call.tokens ≤ call.shownTokens + call.hiddenTokens := by
  unfold ProviderCall.hiddenTokens
  omega

theorem hiddenRequests_of_reserved (call : ProviderCall) (reserved : call.reservation.isSome = true) :
    call.hiddenRequests = 0 := by
  unfold ProviderCall.hiddenRequests ProviderCall.shownRequests
  rw [reserved]
  rfl

theorem hiddenTokens_of_reserved (call : ProviderCall) (reserved : call.reservation.isSome = true) :
    call.hiddenTokens = 0 := by
  unfold ProviderCall.hiddenTokens ProviderCall.shownTokens
  rw [reserved, if_pos rfl, Nat.sub_self]

theorem enabled_of_requests {limit : ModelProviderRateLimit} (limited : 0 < limit.maxRequestsPerMinute) :
    limit.enabled = true := by
  unfold ModelProviderRateLimit.enabled
  rw [decide_eq_true limited, Bool.true_or]

theorem enabled_of_tokens {limit : ModelProviderRateLimit} (limited : 0 < limit.maxTokensPerMinute) :
    limit.enabled = true := by
  unfold ModelProviderRateLimit.enabled
  rw [decide_eq_true limited, Bool.or_true]

theorem total_requests_eq (p : ProviderCall → Bool) : total p (fun _ => 1) calls =
    total p ProviderCall.shownRequests calls + total p ProviderCall.hiddenRequests calls := by
  rw [← total_add]
  exact congrArg (fun f => total p f calls) (funext fun call => (shown_add_hidden call).symm)

theorem total_tokens_le (p : ProviderCall → Bool) : total p ProviderCall.tokens calls ≤
    total p ProviderCall.shownTokens calls + total p ProviderCall.hiddenTokens calls := by
  rw [← total_add]
  exact total_le (fun _ _ => id) fun call _ _ => tokens_le_shown_add_hidden call

theorem started_le {call : ProviderCall} {window : Int} {f : ProviderCall → Nat} {bound : Nat}
    (bounded : ∀ instant, total (inWindow ProviderCall.startedAt window
      (ProviderCall.inScope tenantId providerId) instant) f calls ≤ bound)
    (latest : ∀ other ∈ calls, other.startedAt ≤ call.startedAt)
    (room : call.tenantId = tenantId → call.providerId = providerId →
      total (after ProviderCall.startedAt (ProviderCall.inScope tenantId providerId)
        (call.startedAt - window)) f calls + f call ≤ bound) (instant : Time) :
    total (inWindow ProviderCall.startedAt window (ProviderCall.inScope tenantId providerId) instant)
      f (calls ++ [call]) ≤ bound := by
  by_cases own : call.tenantId = tenantId ∧ call.providerId = providerId
  · exact inWindow_snoc_le bounded latest (room own.1 own.2) instant
  · have elsewhere : inWindow ProviderCall.startedAt window
        (ProviderCall.inScope tenantId providerId) instant call = false := by
      unfold inWindow ProviderCall.inScope
      rw [Bool.and_eq_false_iff]
      exact .inl (by simpa using own)
    rw [total_snoc, elsewhere]
    simpa using bounded instant

end Calls

namespace Gateway

variable {s s' : Gateway}

section Steps

theorem WithinLimits.start (within : s.WithinLimits) (inv : s.Inv) {call : ProviderCall}
    (now : call.startedAt = s.now) (calls : s'.calls = s.calls ++ [call])
    (providers : s'.providers = s.providers) (window : s'.limiter.window = s.limiter.window)
    (requests : 0 < (s.providers call.providerId).rateLimit.maxRequestsPerMinute →
      total (after ProviderCall.startedAt (ProviderCall.inScope call.tenantId call.providerId)
          (s.now - s.limiter.window)) (fun _ => 1) s.calls + 1 ≤
        (s.providers call.providerId).rateLimit.maxRequestsPerMinute)
    (tokens : 0 < (s.providers call.providerId).rateLimit.maxTokensPerMinute →
      total (after ProviderCall.startedAt (ProviderCall.inScope call.tenantId call.providerId)
          (s.now - s.limiter.window)) ProviderCall.tokens s.calls + call.tokens ≤
        (s.providers call.providerId).rateLimit.maxTokensPerMinute) : s'.WithinLimits := by
  have latest : ∀ other ∈ s.calls, other.startedAt ≤ call.startedAt := by
    rw [now]
    exact inv.started
  constructor
  · rw [providers, calls, window]
    intro tenantId providerId limited
    refine started_le (within.requests tenantId providerId limited) latest fun tenant provider => ?_
    subst tenant provider
    rw [now]
    exact requests limited
  · rw [providers, calls, window]
    intro tenantId providerId limited
    refine started_le (within.tokens tenantId providerId limited) latest fun tenant provider => ?_
    subst tenant provider
    rw [now]
    exact tokens limited

theorem requests_le {listed : Nat} {tenantId providerId : String} (inv : s.Inv)
    (seen : total (after ModelProviderUsageSample.createdAt
        (ModelProviderUsageSample.inScope tenantId providerId) (s.now - s.limiter.window))
      ModelProviderUsageSample.requestCount s.limiter.samples ≤ listed) :
    total (after ProviderCall.startedAt (ProviderCall.inScope tenantId providerId)
        (s.now - s.limiter.window)) (fun _ => 1) s.calls ≤
      listed + s.hidden ProviderCall.hiddenRequests tenantId providerId := by
  rw [total_requests_eq]
  have shown := (inv.shows tenantId providerId _ (le_refl _)).requests
  unfold hidden
  omega

theorem tokens_le {listed : Nat} {tenantId providerId : String} (inv : s.Inv)
    (seen : total (after ModelProviderUsageSample.createdAt
        (ModelProviderUsageSample.inScope tenantId providerId) (s.now - s.limiter.window))
      ModelProviderUsageSample.totalTokens s.limiter.samples ≤ listed) :
    total (after ProviderCall.startedAt (ProviderCall.inScope tenantId providerId)
        (s.now - s.limiter.window)) ProviderCall.tokens s.calls ≤
      listed + s.hidden ProviderCall.hiddenTokens tenantId providerId := by
  have shown := (inv.shows tenantId providerId _ (le_refl _)).tokens
  have parts := @total_tokens_le s.calls (after ProviderCall.startedAt
    (ProviderCall.inScope tenantId providerId) (s.now - s.limiter.window))
  unfold hidden
  omega

theorem hidden_of_redis (inv : s.Inv) (redis : s.limiter.backend = .redis) {tenantId providerId : String}
    (enabled : (s.providers providerId).rateLimit.enabled = true) (f : ProviderCall → Nat)
    (nothing : ∀ call, call.reservation.isSome = true → f call = 0) :
    s.hidden f tenantId providerId = 0 := by
  refine Nat.le_zero.mp (Nat.le_trans (total_le (q := fun _ => true) (g := fun _ => 0)
    (fun _ _ _ => rfl) fun call member here => ?_) ?_)
  · unfold after ProviderCall.inScope at here
    simp only [Bool.and_eq_true, decide_eq_true_eq] at here
    have same := here.1.2
    exact Nat.le_of_eq (nothing call (inv.reserved redis call member (by rw [same]; exact enabled)))
  · unfold total
    simp

theorem Shows.keeps {calls : List ProviderCall} {tenantId providerId : String} {instant now : Time} {l l' : ModelProviderRateLimiter}
    (shows : Shows l.samples calls tenantId providerId instant) (keeps : Keeps l l' now)
    (inside : now - l.window ≤ instant) : Shows l'.samples calls tenantId providerId instant :=
  ⟨Nat.le_trans shows.requests (keeps.samples _ _ _ inside _),
    Nat.le_trans shows.tokens (keeps.samples _ _ _ inside _)⟩

theorem Shows.start {samples : List ModelProviderUsageSample} {calls : List ProviderCall}
    {tenantId providerId : String} {instant : Time} {call : ProviderCall}
    (shows : Shows samples calls tenantId providerId instant) (reservation : call.reservation = none)
    (recorded : call.recorded = none) :
    Shows samples (calls ++ [call]) tenantId providerId instant := by
  have requests : call.shownRequests = 0 := by
    unfold ProviderCall.shownRequests
    rw [reservation, recorded]
    rfl
  have tokens : call.shownTokens = 0 := by
    unfold ProviderCall.shownTokens
    rw [reservation, recorded]
    rfl
  constructor
  · rw [total_snoc, requests, ite_self, Nat.add_zero]
    exact shows.requests
  · rw [total_snoc, tokens, ite_self, Nat.add_zero]
    exact shows.tokens

theorem Shows.reserve {samples : List ModelProviderUsageSample} {calls : List ProviderCall}
    {tenantId providerId : String} {instant : Time} (call : ProviderCall)
    (shows : Shows samples calls tenantId providerId instant)
    (reservation : call.reservation.isSome = true) :
    Shows (samples ++ [⟨call.tenantId, call.providerId, 1, call.tokens, call.startedAt⟩])
      (calls ++ [call]) tenantId providerId instant := by
  have same : after ModelProviderUsageSample.createdAt
      (ModelProviderUsageSample.inScope tenantId providerId) instant
        ⟨call.tenantId, call.providerId, 1, call.tokens, call.startedAt⟩ =
      after ProviderCall.startedAt (ProviderCall.inScope tenantId providerId) instant call := rfl
  have requests : call.shownRequests = 1 := by
    unfold ProviderCall.shownRequests
    rw [reservation]
    rfl
  have tokens : call.shownTokens = call.tokens := by
    unfold ProviderCall.shownTokens
    rw [reservation]
    rfl
  constructor
  · rw [total_snoc, total_snoc, requests, same]
    exact Nat.add_le_add_right shows.requests _
  · rw [total_snoc, total_snoc, tokens, same]
    exact Nat.add_le_add_right shows.tokens _

theorem Shows.record {samples : List ModelProviderUsageSample} {calls : List ProviderCall}
    {tenantId providerId : String} {instant now : Time} {id : Nat} {call : ProviderCall}
    (shows : Shows samples calls tenantId providerId instant) (found : calls[id]? = some call)
    (reservation : call.reservation = none) (started : call.startedAt ≤ now) (totalTokens : Nat) :
    Shows (samples ++ [⟨call.tenantId, call.providerId, 1, totalTokens, now⟩])
      (calls.set id { call with recorded := some totalTokens }) tenantId providerId instant := by
  have later : after ProviderCall.startedAt (ProviderCall.inScope tenantId providerId) instant call = true →
      after ModelProviderUsageSample.createdAt (ModelProviderUsageSample.inScope tenantId providerId)
        instant ⟨call.tenantId, call.providerId, 1, totalTokens, now⟩ = true := by
    unfold after ProviderCall.inScope ModelProviderUsageSample.inScope
    simp only [Bool.and_eq_true, decide_eq_true_eq]
    exact fun here => ⟨here.1, lt_of_lt_of_le here.2 started⟩
  have same : after ProviderCall.startedAt (ProviderCall.inScope tenantId providerId) instant
      { call with recorded := some totalTokens } =
      after ProviderCall.startedAt (ProviderCall.inScope tenantId providerId) instant call := rfl
  constructor
  · rw [total_snoc]
    refine Nat.le_trans (total_set_le (d := if after ModelProviderUsageSample.createdAt
      (ModelProviderUsageSample.inScope tenantId providerId) instant
        ⟨call.tenantId, call.providerId, 1, totalTokens, now⟩ then 1 else 0) found ?_)
      (Nat.add_le_add_right shows.requests _)
    rw [same]
    split
    · next here =>
      rw [if_pos (later here)]
      unfold ProviderCall.shownRequests
      simp
    · exact Nat.zero_le _
  · rw [total_snoc]
    refine Nat.le_trans (total_set_le (d := if after ModelProviderUsageSample.createdAt
      (ModelProviderUsageSample.inScope tenantId providerId) instant
        ⟨call.tenantId, call.providerId, 1, totalTokens, now⟩ then totalTokens else 0) found ?_)
      (Nat.add_le_add_right shows.tokens _)
    rw [same]
    split
    · next here =>
      rw [if_pos (later here)]
      unfold ProviderCall.shownTokens
      rw [reservation]
      simp
    · exact Nat.zero_le _

theorem Shows.settle {samples : List ModelProviderUsageSample} {calls : List ProviderCall}
    {tenantId providerId : String} {instant : Time} {id : Nat} {call : ProviderCall}
    (shows : Shows samples calls tenantId providerId instant) (found : calls[id]? = some call)
    (reservation : call.reservation.isSome = true) (totalTokens : Nat)
    (more : List ModelProviderUsageSample) :
    Shows (samples ++ more) (calls.set id { call with recorded := some totalTokens }) tenantId
      providerId instant := by
  have requests : ProviderCall.shownRequests { call with recorded := some totalTokens } =
      call.shownRequests := by
    unfold ProviderCall.shownRequests
    rw [reservation]
    rfl
  have tokens : ProviderCall.shownTokens { call with recorded := some totalTokens } =
      call.shownTokens := by
    unfold ProviderCall.shownTokens
    rw [reservation]
    rfl
  constructor
  · rw [total_append]
    refine Nat.le_trans (total_set_le (d := 0) found ?_) (Nat.le_trans shows.requests (Nat.le_add_right _ _))
    rw [requests]
    exact Nat.le_refl _
  · rw [total_append]
    refine Nat.le_trans (total_set_le (d := 0) found ?_) (Nat.le_trans shows.tokens (Nat.le_add_right _ _))
    rw [tokens]
    exact Nat.le_refl _

theorem Fits.start {providers : String → ModelProviderConfig} {calls : List ProviderCall}
    {request : GatewayCall} (fits : Fits providers calls request) (call : ProviderCall) :
    Fits providers (calls ++ [call]) request where
  registered := fits.registered
  calling id here := by
    obtain ⟨found, at_id, tenant⟩ := fits.calling id here
    refine ⟨found, ?_, tenant⟩
    rw [List.getElem?_append_left (List.getElem?_eq_some_iff.mp at_id).1]
    exact at_id

theorem Fits.set {providers : String → ModelProviderConfig} {calls : List ProviderCall}
    {request : GatewayCall} (fits : Fits providers calls request) {id : Nat} {call after : ProviderCall}
    (found : calls[id]? = some call) (tenant : after.tenantId = call.tenantId) :
    Fits providers (calls.set id after) request where
  registered := fits.registered
  calling other here := by
    obtain ⟨there, at_id, own⟩ := fits.calling other here
    rw [List.getElem?_set]
    by_cases same : id = other
    · subst same
      rw [found] at at_id
      cases at_id
      rw [if_pos rfl, if_pos (List.getElem?_eq_some_iff.mp found).1]
      exact ⟨after, rfl, tenant.trans own⟩
    · rw [if_neg same]
      exact ⟨there, at_id, own⟩

theorem Fits.fallBack {providers : String → ModelProviderConfig} {calls : List ProviderCall}
    {call : GatewayCall} {provider : ModelProviderConfig} {rest : List ModelProviderConfig}
    (fits : Fits providers calls call) (candidates : call.candidates = provider :: rest)
    (allowed : Bool) : Fits providers calls (Gateway.fallBack call rest allowed) where
  registered other member := by
    refine fits.registered other ?_
    rw [candidates]
    cases allowed with
    | true => exact List.mem_cons_of_mem _ member
    | false => cases member
  calling id here := by cases here

theorem fits_set {requests : List GatewayCall} {i : Nat} {next : GatewayCall}
    {P : GatewayCall → Prop} (all : ∀ request ∈ requests, P request) (here : P next) :
    ∀ request ∈ requests.set i next, P request := by
  intro request member
  obtain before | new := List.mem_or_eq_of_mem_set member
  · exact all request before
  · rw [new]
    exact here

theorem Inv.keep (inv : s.Inv) (within : s.WithinLimits) (now : s.now ≤ s'.now)
    (keeps : Keeps s.limiter s'.limiter s.now) (providers : s'.providers = s.providers)
    (calls : s'.calls = s.calls) (fits : ∀ request ∈ s'.requests, Fits s.providers s.calls request) :
    s'.Inv ∧ s'.WithinLimits := by
  refine ⟨⟨?_, ?_, ?_, ?_, fun tenantId providerId instant inside => ?_⟩, ⟨?_, ?_⟩⟩
  · rw [calls]
    exact fun call member => le_trans (inv.started call member) now
  · rw [providers, calls]
    exact fits
  · rw [calls]
    exact inv.reservedTokens
  · rw [keeps.backend, providers, calls]
    exact inv.reserved
  · rw [keeps.window] at inside
    have earlier : s.now - s.limiter.window ≤ instant := le_trans (Int.sub_le_sub_right now _) inside
    rw [calls]
    exact (inv.shows tenantId providerId instant earlier).keeps keeps earlier
  · rw [providers, calls, keeps.window]
    exact within.requests
  · rw [providers, calls, keeps.window]
    exact within.tokens

structure Started (s s' : Gateway) (call : ProviderCall) : Prop where
  now : s'.now = s.now
  startedAt : call.startedAt = s.now
  providers : s'.providers = s.providers
  backend : s'.limiter.backend = s.limiter.backend
  window : s'.limiter.window = s.limiter.window
  calls : s'.calls = s.calls ++ [call]
  fits : ∀ request ∈ s'.requests, Fits s.providers (s.calls ++ [call]) request
  reservedTokens : ∀ reservation, call.reservation = some reservation →
    reservation.reservedTokens = call.tokens
  reserved : s.limiter.backend = .redis →
    (s.providers call.providerId).rateLimit.enabled = true → call.reservation.isSome = true
  shows : ∀ tenantId providerId instant, s.now - s.limiter.window ≤ instant →
    Shows s'.limiter.samples (s.calls ++ [call]) tenantId providerId instant

theorem Inv.start (inv : s.Inv) {call : ProviderCall} (started : Started s s' call) : s'.Inv := by
  refine ⟨?_, ?_, ?_, ?_, ?_⟩
  · rw [started.calls, started.now]
    intro other member
    obtain before | new := List.mem_append.mp member
    · exact inv.started other before
    · rw [List.mem_singleton.mp new, started.startedAt]
  · rw [started.calls, started.providers]
    exact started.fits
  · rw [started.calls]
    intro other member
    obtain before | new := List.mem_append.mp member
    · exact inv.reservedTokens other before
    · rw [List.mem_singleton.mp new]
      exact started.reservedTokens
  · rw [started.calls, started.providers, started.backend]
    intro redis other member
    obtain before | new := List.mem_append.mp member
    · exact inv.reserved redis other before
    · rw [List.mem_singleton.mp new]
      exact started.reserved redis
  · rw [started.calls, started.now, started.window]
    exact started.shows

theorem reserveStep_step (inv : s.Inv) (within : s.WithinLimits) {i : Nat} {call : GatewayCall}
    {provider : ModelProviderConfig} {rest : List ModelProviderConfig}
    (found : s.requests[i]? = some call) (candidates : call.candidates = provider :: rest)
    (meets : s.LeavesRoom (.reserve i)) :
    (s.reserveStep i call provider rest).Inv ∧ (s.reserveStep i call provider rest).WithinLimits := by
  have fits := inv.fits call (List.mem_of_getElem? found)
  have registered : s.providers provider.id = provider :=
    fits.registered provider (by rw [candidates]; exact List.mem_cons_self)
  have next (started : ProviderCall) (tenant : started.tenantId = call.request.tenantId) :
      ∀ request ∈ s.requests.set i { call with calling := some s.calls.length },
        Fits s.providers (s.calls ++ [started]) request := by
    refine fits_set (fun request member => (inv.fits request member).start started) ⟨?_, ?_⟩
    · exact fits.registered
    · intro id here
      cases here
      exact ⟨started, List.getElem?_concat_length, tenant⟩
  have outcome := @reserve_reserved s.limiter s.now provider call.request
  unfold reserveStep
  cases answer : s.limiter.reserve provider call.request s.now with
  | mk result limiter =>
    rw [answer] at outcome
    cases outcome with
    | refused e _ keeps =>
      refine inv.keep within (le_refl _) keeps rfl rfl ?_
      exact fits_set inv.fits (fits.fallBack candidates _)
    | unlimited disabled =>
      have unlimited : provider.rateLimit.maxRequestsPerMinute = 0 ∧
          provider.rateLimit.maxTokensPerMinute = 0 := by
        unfold ModelProviderRateLimit.enabled at disabled
        simpa using disabled
      refine ⟨inv.start ⟨rfl, rfl, rfl, rfl, rfl, rfl, next _ rfl, nofun, fun _ enabled => ?_,
        fun tenantId providerId instant inside => ?_⟩,
        within.start inv rfl rfl rfl rfl (fun limited => ?_) fun limited => ?_⟩
      · rw [registered, disabled] at enabled
        cases enabled
      · exact (inv.shows tenantId providerId instant inside).start rfl rfl
      · rw [registered, unlimited.1] at limited
        exact absurd limited (Nat.lt_irrefl 0)
      · rw [registered, unlimited.2] at limited
        exact absurd limited (Nat.lt_irrefl 0)
    | checked backend allowed _ keeps =>
      obtain ⟨requests, tokens⟩ := meets call provider rest found candidates backend allowed
      have listed := total_le_listed (@keeps_pruneBefore s.limiter s.now
        call.request.tenantId) call.request.tenantId provider.id
      refine ⟨inv.start ⟨rfl, rfl, rfl, keeps.backend, keeps.window, rfl, next _ rfl, nofun,
        fun redis => absurd redis backend, fun tenantId providerId instant inside => ?_⟩,
        within.start inv rfl rfl rfl keeps.window (fun limited => ?_) fun limited => ?_⟩
      · exact ((inv.shows tenantId providerId instant inside).keeps keeps inside).start rfl rfl
      · rw [registered] at limited ⊢
        have counted := requests_le inv (listed ModelProviderUsageSample.requestCount)
        exact Nat.succ_le_of_lt (Nat.lt_of_le_of_lt counted (requests limited))
      · rw [registered] at limited ⊢
        have counted := tokens_le inv (listed ModelProviderUsageSample.totalTokens)
        exact Nat.le_trans (Nat.add_le_add_right counted _) (tokens limited)
    | reserved redis before room =>
      let started : ProviderCall :=
        { tenantId := call.request.tenantId
          providerId := provider.id
          tokens := ModelProviderRateLimiter.reservedTokensForRequest provider call.request
          startedAt := s.now
          reservation := some ⟨call.request.tenantId, provider.id,
            ModelProviderRateLimiter.reservedTokensForRequest provider call.request, s.now⟩ }
      have listed := total_le_listed room.keeps call.request.tenantId provider.id
      have hidden (f : ProviderCall → Nat) (nothing : ∀ call, call.reservation.isSome = true → f call = 0)
          (enabled : provider.rateLimit.enabled = true) :
          s.hidden f call.request.tenantId provider.id = 0 :=
        hidden_of_redis inv redis (by rw [registered]; exact enabled) f nothing
      refine ⟨inv.start ⟨rfl, rfl, rfl, room.keeps.backend, room.keeps.window, rfl, next _ rfl, ?_,
        fun _ _ => rfl, fun tenantId providerId instant inside => ?_⟩,
        within.start inv rfl rfl rfl room.keeps.window (fun limited => ?_) fun limited => ?_⟩
      · intro reservation same
        cases same
        rfl
      · have kept := (inv.shows tenantId providerId instant inside).keeps room.keeps inside
        exact Shows.reserve started kept rfl
      · rw [registered] at limited ⊢
        have counted := requests_le inv (listed ModelProviderUsageSample.requestCount)
        rw [hidden _ hiddenRequests_of_reserved (enabled_of_requests limited)] at counted
        exact Nat.succ_le_of_lt (Nat.lt_of_le_of_lt counted (room.requests limited))
      · rw [registered] at limited ⊢
        have counted := tokens_le inv (listed ModelProviderUsageSample.totalTokens)
        rw [hidden _ hiddenTokens_of_reserved (enabled_of_tokens limited)] at counted
        exact Nat.le_trans (Nat.add_le_add_right counted _) (room.tokens limited)

theorem recordSuccess_samples (l : ModelProviderRateLimiter) (providerId : String) (totalTokens : Nat)
    (request : ModelGatewayRequest) (reservation : Option ModelProviderRateLimitReservation) (now : Time) :
    ∃ before, Keeps l before now ∧
      (reservation = none ∧ l.recordSuccess providerId totalTokens request reservation now =
          { before with samples := before.samples ++ [⟨request.tenantId, providerId, 1, totalTokens, now⟩] } ∨
        reservation.isSome = true ∧ ∃ more, l.recordSuccess providerId totalTokens request reservation now =
          { before with samples := before.samples ++ more }) := by
  unfold ModelProviderRateLimiter.recordSuccess
  cases reservation with
  | none => exact ⟨_, keeps_pruneBefore _, .inl ⟨rfl, rfl⟩⟩
  | some reservation =>
    dsimp only
    split
    · refine ⟨l, Keeps.refl l now, .inr ⟨rfl, [], ?_⟩⟩
      rw [List.append_nil]
    · exact ⟨_, keeps_pruneBefore _, .inr ⟨rfl, _, rfl⟩⟩

theorem succeedStep_step (inv : s.Inv) (within : s.WithinLimits) {i id : Nat} {call : GatewayCall}
    {provided : ProviderCall} (found : s.requests[i]? = some call) (calling : call.calling = some id)
    (at_id : s.calls[id]? = some provided) (totalTokens : Nat) :
    (s.succeedStep i call id provided totalTokens).Inv ∧
      (s.succeedStep i call id provided totalTokens).WithinLimits := by
  have fits := inv.fits call (List.mem_of_getElem? found)
  have member := List.mem_of_getElem? at_id
  have tenant : call.request.tenantId = provided.tenantId := by
    obtain ⟨other, there, own⟩ := fits.calling id calling
    rw [at_id] at there
    cases there
    exact own.symm
  obtain ⟨before, keeps, recorded⟩ := recordSuccess_samples s.limiter provided.providerId totalTokens
    call.request provided.reservation s.now
  rw [tenant] at recorded
  have kept : (s.succeedStep i call id provided totalTokens).limiter.backend = s.limiter.backend ∧
      (s.succeedStep i call id provided totalTokens).limiter.window = s.limiter.window := by
    obtain ⟨-, same⟩ | ⟨-, more, same⟩ := recorded
    · exact ⟨(congrArg _ same).trans keeps.backend, (congrArg _ same).trans keeps.window⟩
    · exact ⟨(congrArg _ same).trans keeps.backend, (congrArg _ same).trans keeps.window⟩
  have weighs (p : ProviderCall → Bool) (f : ProviderCall → Nat)
      (same : (if p { provided with recorded := some totalTokens } then
          f { provided with recorded := some totalTokens } else 0) = if p provided then f provided else 0) :
      total p f (s.calls.set id { provided with recorded := some totalTokens }) ≤ total p f s.calls :=
    total_set_le (d := 0) at_id (Nat.le_of_eq same)
  refine ⟨⟨?_, ?_, ?_, ?_, fun tenantId providerId instant inside => ?_⟩, ⟨?_, ?_⟩⟩
  · exact fun other listed => (List.mem_or_eq_of_mem_set listed).elim (inv.started other)
      fun new => new ▸ inv.started provided member
  · refine fits_set (fun request listed => (inv.fits request listed).set at_id rfl) ⟨nofun, nofun⟩
  · exact fun other listed => (List.mem_or_eq_of_mem_set listed).elim (inv.reservedTokens other)
      fun new => new ▸ inv.reservedTokens provided member
  · rw [kept.1]
    exact fun redis other listed => (List.mem_or_eq_of_mem_set listed).elim (inv.reserved redis other)
      fun new => new ▸ inv.reserved redis provided member
  · rw [kept.2] at inside
    have shows := (inv.shows tenantId providerId instant inside).keeps keeps inside
    obtain ⟨reservation, same⟩ | ⟨reservation, more, same⟩ := recorded
    · have after := shows.record at_id reservation (inv.started provided member) totalTokens
      exact (congrArg (fun l : ModelProviderRateLimiter => Shows l.samples _ tenantId providerId instant)
        same).mpr after
    · have after := shows.settle at_id reservation totalTokens more
      exact (congrArg (fun l : ModelProviderRateLimiter => Shows l.samples _ tenantId providerId instant)
        same).mpr after
  · rw [kept.2]
    exact fun tenantId providerId limited instant =>
      Nat.le_trans (weighs _ _ rfl) (within.requests tenantId providerId limited instant)
  · rw [kept.2]
    exact fun tenantId providerId limited instant =>
      Nat.le_trans (weighs _ _ rfl) (within.tokens tenantId providerId limited instant)

theorem step_within (inv : s.Inv) (within : s.WithinLimits) (label : Label) (meets : s.LeavesRoom label)
    (moved : s.step label = some s') : s'.Inv ∧ s'.WithinLimits := by
  cases label with
  | request request candidates =>
    cases moved
    refine inv.keep within (le_refl _) (Keeps.refl _ _) rfl rfl fun other member => ?_
    obtain before | new := List.mem_append.mp member
    · exact inv.fits other before
    · rw [List.mem_singleton.mp new]
      refine ⟨fun provider listed => ?_, nofun⟩
      obtain ⟨id, -, same⟩ := List.mem_map.mp listed
      rw [← same, s.named]
  | reserve i =>
    dsimp only [step] at moved
    split at moved
    · cases moved
    · next call found =>
      split at moved
      · next provider rest _ candidates =>
        cases moved
        exact reserveStep_step inv within found candidates meets
      · cases moved
  | succeed i totalTokens =>
    dsimp only [step] at moved
    split at moved
    · cases moved
    · next call found =>
      split at moved
      · cases moved
      · next id calling =>
        obtain ⟨provided, at_id, same⟩ := Option.map_eq_some_iff.mp moved
        rw [← same]
        exact succeedStep_step inv within found calling at_id totalTokens
  | fail i responseError =>
    dsimp only [step] at moved
    split at moved
    · cases moved
    · next call found =>
      split at moved
      · next id provider rest _ candidates =>
        cases moved
        refine inv.keep within (le_refl _) (Keeps.refl _ _) rfl rfl ?_
        exact fits_set inv.fits ((inv.fits call (List.mem_of_getElem? found)).fallBack candidates _)
      · cases moved
  | wait duration =>
    cases moved
    exact inv.keep within (Int.le_add_of_nonneg_right (Int.natCast_nonneg duration)) (Keeps.refl _ _)
      rfl rfl inv.fits

end Steps

structure Fresh (s : Gateway) : Prop where
  calls : s.calls = []
  requests : s.requests = []

theorem Fresh.inv {s : Gateway} (fresh : s.Fresh) : s.Inv ∧ s.WithinLimits := by
  obtain ⟨calls, requests⟩ := fresh
  refine ⟨⟨?_, ?_, ?_, ?_, fun tenantId providerId instant _ => ⟨?_, ?_⟩⟩, ⟨?_, ?_⟩⟩
  · rw [calls]
    nofun
  · rw [requests]
    nofun
  · rw [calls]
    nofun
  · rw [calls]
    nofun
  · rw [calls]
    exact Nat.zero_le _
  · rw [calls]
    exact Nat.zero_le _
  · rw [calls]
    exact fun _ _ _ _ => Nat.zero_le _
  · rw [calls]
    exact fun _ _ _ _ => Nat.zero_le _

theorem reserve_backend (l : ModelProviderRateLimiter) (provider : ModelProviderConfig)
    (request : ModelGatewayRequest) (now : Time) :
    (l.reserve provider request now).2.backend = l.backend := by
  have outcome := @reserve_reserved l now provider request
  generalize l.reserve provider request now = answer at outcome
  cases outcome with
  | refused e l' keeps => exact keeps.backend
  | unlimited disabled => rfl
  | checked backend allowed l' keeps => exact keeps.backend
  | reserved redis before room => exact room.keeps.backend

theorem step_backend {s s' : Gateway} {label : Label} (moved : s.step label = some s') :
    s'.limiter.backend = s.limiter.backend := by
  cases label with
  | request request candidates =>
    cases moved
    rfl
  | reserve i =>
    dsimp only [step] at moved
    split at moved
    · cases moved
    · next call found =>
      split at moved
      · next provider rest _ candidates =>
        cases moved
        have same := reserve_backend s.limiter provider call.request s.now
        unfold reserveStep
        split
        · next answer => rw [answer] at same; exact same
        · next answer => rw [answer] at same; exact same
      · cases moved
  | succeed i totalTokens =>
    dsimp only [step] at moved
    split at moved
    · cases moved
    · next call found =>
      split at moved
      · cases moved
      · next id calling =>
        obtain ⟨provided, -, same⟩ := Option.map_eq_some_iff.mp moved
        rw [← same]
        obtain ⟨before, keeps, ⟨-, after⟩ | ⟨-, more, after⟩⟩ := recordSuccess_samples s.limiter
          provided.providerId totalTokens call.request provided.reservation s.now
        · exact (congrArg _ after).trans keeps.backend
        · exact (congrArg _ after).trans keeps.backend
  | fail i responseError =>
    dsimp only [step] at moved
    split at moved
    · cases moved
    · split at moved
      · cases moved
        rfl
      · cases moved
  | wait duration =>
    cases moved
    rfl

section InFlight

def provider (maxRequestsPerMinute maxTokensPerMinute : Nat) (id : String) : ModelProviderConfig :=
  { id := id, rateLimit := ⟨maxRequestsPerMinute, maxTokensPerMinute⟩ }

def idle (backend : Backend) (maxRequestsPerMinute maxTokensPerMinute : Nat) : Gateway where
  now := 0
  limiter := ⟨backend, [], 60⟩
  providers := provider maxRequestsPerMinute maxTokensPerMinute
  named _ := rfl
  calls := []
  requests := []

def oneByOne : List Label := [.request ⟨"tenant", none⟩ ["p"], .reserve 0, .succeed 0 7]

def together : List Label :=
  [.request ⟨"tenant", none⟩ ["p"], .request ⟨"tenant", none⟩ ["p"], .reserve 0, .reserve 1]

def large : List Label := [.request ⟨"tenant", some 1000⟩ ["p"], .reserve 0]

end InFlight

end Gateway

end Taroai.ModelGateway
