import Mathlib
import Taroai.Clock

/-! Rate limits of model providers (`model_gateway/providers.py`) and the calls that the gateway
makes under them (`ModelGatewayRouter`). Samples are kept by the limiter itself, in a store in
memory, in SQL or in Redis; only the Redis store reserves a request when it is admitted. The
started provider calls are recorded for the statements; what a call answers is left out. -/

namespace Taroai.ModelGateway

structure ModelProviderRateLimit where
  maxRequestsPerMinute : Nat := 0
  maxTokensPerMinute : Nat := 0
deriving DecidableEq, Repr

def ModelProviderRateLimit.enabled (limit : ModelProviderRateLimit) : Bool :=
  0 < limit.maxRequestsPerMinute || 0 < limit.maxTokensPerMinute

structure ModelProviderConfig where
  id : String
  rateLimit : ModelProviderRateLimit
  fallbackOnRateLimit : Bool := true
  fallbackOnResponseError : Bool := true
deriving DecidableEq, Repr

structure ModelGatewayRequest where
  tenantId : String
  maxOutputTokens : Option Int := none
deriving DecidableEq, Repr

structure ModelProviderUsageSample where
  tenantId : String
  providerId : String
  requestCount : Nat
  totalTokens : Nat
  createdAt : Time
deriving DecidableEq, Repr

structure ModelProviderRateLimitReservation where
  tenantId : String
  providerId : String
  reservedTokens : Nat
  createdAt : Time
deriving DecidableEq, Repr

/-- `ModelProviderRateLimitError`. -/
structure RateLimited where
  providerId : String
  limitType : String
  currentQuantity : Nat
  limit : Nat
  requestedQuantity : Option Nat := none
deriving DecidableEq, Repr

inductive Backend where
  | limiter
  | inMemory
  | sql
  | redis
deriving DecidableEq, Repr

structure ModelProviderRateLimiter where
  backend : Backend
  samples : List ModelProviderUsageSample
  windowSeconds : Nat
deriving DecidableEq, Repr

namespace ModelProviderRateLimiter

variable (l : ModelProviderRateLimiter)

def window : Int := seconds l.windowSeconds

/-- `zremrangebyscore` takes its upper bound in, the other stores keep a sample of that
instant, and the limiter itself does not look at the tenant. -/
def pruneBefore (tenantId : String) (before : Time) : ModelProviderRateLimiter :=
  { l with samples := l.samples.filter fun sample =>
      match l.backend with
      | .limiter => before ≤ sample.createdAt
      | .inMemory | .sql => sample.tenantId ≠ tenantId || before ≤ sample.createdAt
      | .redis => sample.tenantId ≠ tenantId || before < sample.createdAt }

def listRecentSamples (tenantId providerId : String) (since : Time) : List ModelProviderUsageSample :=
  l.samples.filter fun sample =>
    sample.tenantId = tenantId && sample.providerId = providerId && since ≤ sample.createdAt

def requestCount (samples : List ModelProviderUsageSample) : Nat :=
  (samples.map ModelProviderUsageSample.requestCount).sum

def tokenCount (samples : List ModelProviderUsageSample) : Nat :=
  (samples.map ModelProviderUsageSample.totalTokens).sum

def assertAllowed (provider : ModelProviderConfig) (tenantId : String) (now : Time) :
    Except RateLimited Unit × ModelProviderRateLimiter :=
  let since := now - l.window
  let l := l.pruneBefore tenantId since
  let samples := l.listRecentSamples tenantId provider.id since
  let limit := provider.rateLimit
  if 0 < limit.maxRequestsPerMinute ∧ limit.maxRequestsPerMinute ≤ requestCount samples then
    (.error
      { providerId := provider.id
        limitType := "requests_per_minute"
        currentQuantity := requestCount samples
        limit := limit.maxRequestsPerMinute }, l)
  else if 0 < limit.maxTokensPerMinute ∧ limit.maxTokensPerMinute ≤ tokenCount samples then
    (.error
      { providerId := provider.id
        limitType := "tokens_per_minute"
        currentQuantity := tokenCount samples
        limit := limit.maxTokensPerMinute }, l)
  else (.ok (), l)

/-- `_reserve_request_script`, which Redis runs as one step. -/
def reserveRequestWithScript (provider : ModelProviderConfig) (tenantId : String)
    (reservedTokens : Nat) (now : Time) : Except RateLimited Unit × ModelProviderRateLimiter :=
  let cutoff := now - l.window
  let l := { l with samples := l.samples.filter fun sample =>
    sample.tenantId ≠ tenantId || sample.providerId ≠ provider.id || cutoff < sample.createdAt }
  let samples := l.listRecentSamples tenantId provider.id cutoff
  let limit := provider.rateLimit
  if 0 < limit.maxRequestsPerMinute ∧ limit.maxRequestsPerMinute ≤ requestCount samples then
    (.error
      { providerId := provider.id
        limitType := "requests_per_minute"
        currentQuantity := requestCount samples
        limit := limit.maxRequestsPerMinute
        requestedQuantity := some 0 }, l)
  else if 0 < limit.maxTokensPerMinute ∧
      limit.maxTokensPerMinute < tokenCount samples + reservedTokens then
    (.error
      { providerId := provider.id
        limitType := "tokens_per_minute"
        currentQuantity := tokenCount samples
        limit := limit.maxTokensPerMinute
        requestedQuantity := some reservedTokens }, l)
  else (.ok (), { l with samples := l.samples ++ [⟨tenantId, provider.id, 1, reservedTokens, now⟩] })

def reservedTokensForRequest (provider : ModelProviderConfig) (request : ModelGatewayRequest) : Nat :=
  if provider.rateLimit.maxTokensPerMinute = 0 then 0 else (request.maxOutputTokens.getD 0).toNat

def reserve (provider : ModelProviderConfig) (request : ModelGatewayRequest) (now : Time) :
    Except RateLimited (Option ModelProviderRateLimitReservation) × ModelProviderRateLimiter :=
  if provider.rateLimit.enabled = false then (.ok none, l)
  else
    match l.backend with
    | .redis =>
      let reservedTokens := reservedTokensForRequest provider request
      match l.reserveRequestWithScript provider request.tenantId reservedTokens now with
      | (.ok (), l) => (.ok (some ⟨request.tenantId, provider.id, reservedTokens, now⟩), l)
      | (.error e, l) => (.error e, l)
    | .limiter | .inMemory | .sql =>
      match l.assertAllowed provider request.tenantId now with
      | (.ok (), l) => (.ok none, l)
      | (.error e, l) => (.error e, l)

def recordSample (sample : ModelProviderUsageSample) (now : Time) : ModelProviderRateLimiter :=
  let l := l.pruneBefore sample.tenantId (now - l.window)
  { l with samples := l.samples ++ [sample] }

def recordSuccess (providerId : String) (totalTokens : Nat) (request : ModelGatewayRequest)
    (reservation : Option ModelProviderRateLimitReservation) (now : Time) : ModelProviderRateLimiter :=
  match reservation with
  | none => l.recordSample ⟨request.tenantId, providerId, 1, totalTokens, now⟩ now
  | some reservation =>
    let totalTokens := totalTokens - reservation.reservedTokens
    if totalTokens = 0 then l
    else l.recordSample ⟨request.tenantId, providerId, 0, totalTokens, now⟩ now

end ModelProviderRateLimiter

/-- A call that was admitted and given to its provider. The tokens are those that the request
may use under the provider's limit; the usage is there once the success is recorded. -/
structure ProviderCall where
  tenantId : String
  providerId : String
  tokens : Nat
  startedAt : Time
  reservation : Option ModelProviderRateLimitReservation
  recorded : Option Nat := none
deriving DecidableEq, Repr

/-- A call of the gateway: the candidates left and the provider call that is in flight. -/
structure GatewayCall where
  request : ModelGatewayRequest
  candidates : List ModelProviderConfig
  calling : Option Nat := none
deriving DecidableEq, Repr

structure Gateway where
  now : Time
  limiter : ModelProviderRateLimiter
  providers : String → ModelProviderConfig
  named : ∀ id, (providers id).id = id
  calls : List ProviderCall
  requests : List GatewayCall

inductive Label where
  | request (request : ModelGatewayRequest) (candidates : List String)
  | reserve (request : Nat)
  | succeed (request : Nat) (totalTokens : Nat)
  | fail (request : Nat) (responseError : Bool)
  | wait (duration : Nat)
deriving DecidableEq, Repr

namespace Gateway

def fallBack (call : GatewayCall) (rest : List ModelProviderConfig) (allowed : Bool) : GatewayCall :=
  { call with candidates := if allowed then rest else [], calling := none }

def reserveStep (s : Gateway) (i : Nat) (call : GatewayCall) (provider : ModelProviderConfig)
    (rest : List ModelProviderConfig) : Gateway :=
  match s.limiter.reserve provider call.request s.now with
  | (.error _, limiter) =>
    { s with
      limiter := limiter
      requests := s.requests.set i (fallBack call rest provider.fallbackOnRateLimit) }
  | (.ok reservation, limiter) =>
    { s with
      limiter := limiter
      calls := s.calls ++ [
        { tenantId := call.request.tenantId
          providerId := provider.id
          tokens := ModelProviderRateLimiter.reservedTokensForRequest provider call.request
          startedAt := s.now
          reservation := reservation }]
      requests := s.requests.set i { call with calling := some s.calls.length } }

def succeedStep (s : Gateway) (i : Nat) (call : GatewayCall) (id : Nat) (provided : ProviderCall)
    (totalTokens : Nat) : Gateway :=
  { s with
    limiter := s.limiter.recordSuccess provided.providerId totalTokens call.request
      provided.reservation s.now
    calls := s.calls.set id { provided with recorded := some totalTokens }
    requests := s.requests.set i { call with candidates := [], calling := none } }

def step (s : Gateway) : Label → Option Gateway
  | .request request candidates =>
    some { s with requests := s.requests ++ [⟨request, candidates.map s.providers, none⟩] }
  | .reserve i =>
    match s.requests[i]? with
    | none => none
    | some call =>
      match call.calling, call.candidates with
      | none, provider :: rest => some (s.reserveStep i call provider rest)
      | _, _ => none
  | .succeed i totalTokens =>
    match s.requests[i]? with
    | none => none
    | some call =>
      match call.calling with
      | none => none
      | some id => (s.calls[id]?).map fun provided => s.succeedStep i call id provided totalTokens
  | .fail i responseError =>
    match s.requests[i]? with
    | none => none
    | some call =>
      match call.calling, call.candidates with
      | some _, provider :: rest =>
        let next := fallBack call rest (responseError && provider.fallbackOnResponseError)
        some { s with requests := s.requests.set i next }
      | _, _ => none
  | .wait duration => some { s with now := s.now + duration }

end Gateway

end Taroai.ModelGateway
