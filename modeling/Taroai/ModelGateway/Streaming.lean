import Mathlib.Data.List.Sort
import Mathlib.Data.Prod.Lex
import Mathlib.Data.String.Basic
import Taroai.ModelGateway.RateLimits

/-! The streaming calls of the router (`ModelGatewayRouter._stream_operation`) over the candidates
of `ModelProviderRegistry`. What a provider streams, what other callers do to the limiter and the
instants of the calls are given for each attempt; the attempts are recorded for the statements.
A stream ends well, in a `ModelGatewayResponseError` or in another error: the adapter raises no
`ModelProviderRateLimitError`, which is the limiter's. -/

namespace Taroai.ModelGateway

inductive ReasoningEffort where
  | none
  | minimal
  | low
  | medium
  | high
deriving DecidableEq, Repr

/-- The `ModelProviderConfig` as the routing reads it; the two flags of the base record are the
fallback policy. -/
structure RoutedProvider extends ModelProviderConfig where
  defaultModel : Option String := none
  modelIds : List String := []
  reasoningEfforts : List ReasoningEffort := []
  tenantId : Option String := none
  workspaceId : Option String := none
  priority : Nat := 100
  fallbackEnabled : Bool := true
deriving DecidableEq, Repr

structure RoutedRequest extends ModelGatewayRequest where
  workspaceId : String
  providerId : Option String := none
  model : Option String := none
  reasoningEffort : Option ReasoningEffort := none
deriving DecidableEq, Repr

inductive FallbackReason where
  | responseError
  | rateLimit
deriving DecidableEq, Repr

namespace RoutedProvider

variable (provider : RoutedProvider) (request : RoutedRequest)

/-- `request.model or self.default_model`. -/
def modelForRequest : Option String :=
  if request.model.getD "" = "" then provider.defaultModel else request.model

def allowsModel : Bool :=
  match provider.modelForRequest request with
  | none => true
  | some model => provider.modelIds.isEmpty || provider.modelIds.contains model

def allowsEffort : Bool :=
  match request.reasoningEffort with
  | none => true
  | some effort =>
    (decide (effort = .none) && provider.reasoningEfforts.isEmpty) ||
      provider.reasoningEfforts.contains effort

/-- `ModelProviderConfig.matches`. -/
def matchesRequest : Bool :=
  (request.providerId.all fun id => provider.id = id) &&
    (provider.tenantId.all fun id => id = request.tenantId) &&
    (provider.workspaceId.all fun id => id = request.workspaceId) &&
    provider.allowsModel request && provider.allowsEffort request

def specificity : Nat :=
  (if provider.tenantId.isSome then 1 else 0) + (if provider.workspaceId.isSome then 2 else 0) +
    (if (provider.modelForRequest request).any provider.modelIds.contains then 4 else 0)

def allowsFallback : FallbackReason → Bool
  | .responseError => provider.fallbackEnabled && provider.fallbackOnResponseError
  | .rateLimit => provider.fallbackEnabled && provider.fallbackOnRateLimit

def sortKey : Lex (ℤ × Lex (ℕ × String)) :=
  toLex (-(provider.specificity request : ℤ), toLex (provider.priority, provider.id))

end RoutedProvider

structure ModelProviderRegistry where
  providers : List RoutedProvider

def ModelProviderRegistry.candidates (registry : ModelProviderRegistry) (request : RoutedRequest) :
    List RoutedProvider :=
  (registry.providers.filter fun provider => provider.matchesRequest request).insertionSort
    fun a b => a.sortKey request ≤ b.sortKey request

theorem ModelProviderRegistry.candidates_sorted (registry : ModelProviderRegistry)
    (request : RoutedRequest) :
    (registry.candidates request).Pairwise fun a b => a.sortKey request ≤ b.sortKey request := by
  have total : Std.Total fun a b : RoutedProvider => a.sortKey request ≤ b.sortKey request :=
    ⟨fun a b => le_total (a.sortKey request) (b.sortKey request)⟩
  have trans : IsTrans RoutedProvider fun a b => a.sortKey request ≤ b.sortKey request :=
    ⟨fun _ _ _ first second => le_trans first second⟩
  exact List.pairwise_insertionSort _ _

theorem ModelProviderRegistry.mem_candidates (registry : ModelProviderRegistry)
    (request : RoutedRequest) (provider : RoutedProvider) :
    provider ∈ registry.candidates request ↔
      provider ∈ registry.providers ∧ provider.matchesRequest request = true := by
  unfold ModelProviderRegistry.candidates
  rw [List.mem_insertionSort, List.mem_filter]

/-- `_request_for_provider`. -/
def requestForProvider (provider : RoutedProvider) (request : RoutedRequest) : RoutedRequest :=
  { request with
    model := provider.modelForRequest request
    reasoningEffort :=
      if request.reasoningEffort = some .none ∧ provider.reasoningEfforts = [] then none
      else request.reasoningEffort }

inductive StreamError where
  | response (message : String)
  | other (error : String)
deriving DecidableEq, Repr

structure ProviderStream (Delta : Type) where
  deltas : List Delta
  ending : Except StreamError Unit

inductive ModelGatewayError where
  | configuration (message : String)
  | rateLimit (limited : RateLimited)
  | stream (error : StreamError)
deriving DecidableEq, Repr

structure Circumstances (Delta : Type) where
  before : ModelProviderRateLimiter → ModelProviderRateLimiter
  reservedAt : Time
  stream : RoutedProvider → RoutedRequest → ProviderStream Delta
  meanwhile : ModelProviderRateLimiter → ModelProviderRateLimiter
  recordedAt : Time

inductive Outcome (Delta : Type) where
  | limited (limited : RateLimited)
  | streamed (stream : ProviderStream Delta)

structure Attempt (Delta : Type) where
  provider : RoutedProvider
  outcome : Outcome Delta

structure Streamed (Delta : Type) where
  yields : List Delta
  attempts : List (Attempt Delta)
  limiter : ModelProviderRateLimiter
  ending : Except ModelGatewayError Unit

namespace ModelGatewayRouter

variable {Delta : Type}

def andThen (attempt : Attempt Delta) (deltas : List Delta) (later : Streamed Delta) :
    Streamed Delta :=
  { later with yields := deltas ++ later.yields, attempts := attempt :: later.attempts }

def streamFrom (request : RoutedRequest) (circumstances : ℕ → Circumstances Delta) :
    ℕ → ModelProviderRateLimiter → Option ModelGatewayError → List RoutedProvider → Streamed Delta
  | _, limiter, lastError, [] =>
    let error := lastError.getD (.configuration "no model provider could execute the operation")
    { yields := [], attempts := [], limiter := limiter, ending := .error error }
  | n, limiter, _, provider :: rest =>
    let routed := requestForProvider provider request
    let now := circumstances n
    let reserved := (now.before limiter).reserve provider.toModelProviderConfig
      routed.toModelGatewayRequest now.reservedAt
    match reserved.1 with
    | .error limited =>
      let attempt := ⟨provider, .limited limited⟩
      if provider.allowsFallback .rateLimit then
        andThen attempt []
          (streamFrom request circumstances (n + 1) reserved.2 (some (.rateLimit limited)) rest)
      else
        { yields := [], attempts := [attempt], limiter := reserved.2, ending := .error (.rateLimit limited) }
    | .ok reservation =>
      let stream := now.stream provider routed
      let attempt := ⟨provider, .streamed stream⟩
      let limiter := now.meanwhile reserved.2
      let yielded := !stream.deltas.isEmpty
      match stream.ending with
      | .ok () =>
        { yields := stream.deltas
          attempts := [attempt]
          limiter := limiter.recordSuccess provider.id 0 routed.toModelGatewayRequest reservation
            now.recordedAt
          ending := .ok () }
      | .error (.response message) =>
        let error := ModelGatewayError.stream (.response message)
        if yielded || !provider.allowsFallback .responseError then
          { yields := stream.deltas, attempts := [attempt], limiter := limiter, ending := .error error }
        else
          andThen attempt stream.deltas
            (streamFrom request circumstances (n + 1) limiter (some error) rest)
      | .error (.other error) =>
        { yields := stream.deltas
          attempts := [attempt]
          limiter := limiter
          ending := .error (.stream (.other error)) }

/-- `_stream_operation`. -/
def streamOperation (registry : ModelProviderRegistry) (limiter : ModelProviderRateLimiter)
    (request : RoutedRequest) (circumstances : ℕ → Circumstances Delta) : Streamed Delta :=
  match registry.candidates request with
  | [] =>
    { yields := []
      attempts := []
      limiter := limiter
      ending := .error (.configuration "no model provider matches request") }
  | provider :: rest => streamFrom request circumstances 0 limiter none (provider :: rest)

end ModelGatewayRouter

variable {Delta : Type}

def Attempt.deltas (attempt : Attempt Delta) : List Delta :=
  match attempt.outcome with
  | .limited _ => []
  | .streamed stream => stream.deltas

def Attempt.Completed (attempt : Attempt Delta) : Prop :=
  ∃ stream, attempt.outcome = .streamed stream ∧ stream.ending = .ok ()

/-- The attempt failed before its first delta, in a way that lets the next candidate be tried. -/
def Attempt.FellBack (attempt : Attempt Delta) : Prop :=
  (∃ limited, attempt.outcome = .limited limited ∧
    attempt.provider.allowsFallback .rateLimit = true) ∨
  ∃ message, attempt.outcome = .streamed ⟨[], .error (.response message)⟩ ∧
    attempt.provider.allowsFallback .responseError = true

theorem Attempt.FellBack.deltas {attempt : Attempt Delta} (fellBack : attempt.FellBack) :
    attempt.deltas = [] := by
  unfold Attempt.deltas
  rcases fellBack with ⟨limited, outcome, -⟩ | ⟨message, outcome, -⟩ <;> rw [outcome]

theorem Attempt.FellBack.not_completed {attempt : Attempt Delta} (fellBack : attempt.FellBack) :
    ¬attempt.Completed := by
  rintro ⟨stream, streamed, completed⟩
  rcases fellBack with ⟨limited, outcome, -⟩ | ⟨message, outcome, -⟩ <;> rw [outcome] at streamed
  · cases streamed
  · cases streamed
    cases completed

structure Streamed.OneCandidate (out : Streamed Delta) (candidates : List RoutedProvider)
    (request : RoutedRequest) (circumstances : ℕ → Circumstances Delta) (n : ℕ) : Prop where
  tried : out.attempts.map Attempt.provider <+: candidates
  streams : ∀ i attempt stream, out.attempts[i]? = some attempt →
    attempt.outcome = .streamed stream →
    stream = (circumstances (n + i)).stream attempt.provider
      (requestForProvider attempt.provider request)
  last : ∃ earlier attempt, out.attempts = earlier ++ [attempt] ∧
    (∀ failed ∈ earlier, failed.FellBack) ∧ out.yields = attempt.deltas ∧
    (out.ending = .ok () ↔ attempt.Completed)

namespace ModelGatewayRouter

variable {request : RoutedRequest} {circumstances : ℕ → Circumstances Delta}

theorem oneCandidate_single {provider : RoutedProvider} {rest : List RoutedProvider} {n : ℕ}
    {limiter : ModelProviderRateLimiter} {ending : Except ModelGatewayError Unit}
    (attempt : Attempt Delta) (tries : attempt.provider = provider)
    (streams : ∀ stream, attempt.outcome = .streamed stream →
      stream = (circumstances n).stream provider (requestForProvider provider request))
    (ends : ending = .ok () ↔ attempt.Completed) :
    Streamed.OneCandidate ⟨attempt.deltas, [attempt], limiter, ending⟩ (provider :: rest) request
      circumstances n := by
  subst tries
  refine ⟨⟨rest, rfl⟩, ?_, [], attempt, rfl, ?_, rfl, ends⟩
  · intro i other stream listed streamed
    cases i with
    | zero =>
      cases listed
      exact streams stream streamed
    | succ i => cases listed
  · exact fun failed none => absurd none List.not_mem_nil

theorem oneCandidate_andThen {provider : RoutedProvider} {rest : List RoutedProvider} {n : ℕ}
    {later : Streamed Delta} (attempt : Attempt Delta) (tries : attempt.provider = provider)
    (streams : ∀ stream, attempt.outcome = .streamed stream →
      stream = (circumstances n).stream provider (requestForProvider provider request))
    (fellBack : attempt.FellBack)
    (goes_on : later.OneCandidate rest request circumstances (n + 1)) :
    (andThen attempt [] later).OneCandidate (provider :: rest) request circumstances n := by
  subst tries
  obtain ⟨earlier, final, listed, failed, yields, ends⟩ := goes_on.last
  refine ⟨?_, ?_, attempt :: earlier, final, congrArg _ listed, ?_, yields, ends⟩
  · exact (List.prefix_cons_inj _).mpr goes_on.tried
  · intro i other stream listed streamed
    cases i with
    | zero =>
      cases listed
      exact streams stream streamed
    | succ i =>
      rw [Nat.add_succ, ← Nat.succ_add]
      exact goes_on.streams i other stream listed streamed
  · exact List.forall_mem_cons.mpr ⟨fellBack, failed⟩

theorem oneCandidate_fallBack {provider : RoutedProvider} {rest : List RoutedProvider} {n : ℕ}
    {limiter : ModelProviderRateLimiter} {error : ModelGatewayError} (attempt : Attempt Delta)
    (tries : attempt.provider = provider)
    (streams : ∀ stream, attempt.outcome = .streamed stream →
      stream = (circumstances n).stream provider (requestForProvider provider request))
    (fellBack : attempt.FellBack)
    (goes_on : rest ≠ [] → (streamFrom request circumstances (n + 1) limiter (some error)
      rest).OneCandidate rest request circumstances (n + 1)) :
    (andThen attempt [] (streamFrom request circumstances (n + 1) limiter (some error)
      rest)).OneCandidate (provider :: rest) request circumstances n := by
  cases rest with
  | nil =>
    have ends : (.error error : Except ModelGatewayError Unit) = .ok () ↔ attempt.Completed :=
      ⟨nofun, fun completed => absurd completed fellBack.not_completed⟩
    have single : Streamed.OneCandidate ⟨attempt.deltas, [attempt], limiter, .error error⟩ [provider]
        request circumstances n := oneCandidate_single attempt tries streams ends
    rw [fellBack.deltas] at single
    exact single
  | cons next others =>
    exact oneCandidate_andThen attempt tries streams fellBack (goes_on (List.cons_ne_nil _ _))

theorem streamFrom_oneCandidate (candidates : List RoutedProvider) (n : ℕ)
    (limiter : ModelProviderRateLimiter) (lastError : Option ModelGatewayError)
    (some_candidate : candidates ≠ []) :
    (streamFrom request circumstances n limiter lastError candidates).OneCandidate candidates
      request circumstances n := by
  induction candidates generalizing n limiter lastError with
  | nil => exact absurd rfl some_candidate
  | cons provider rest ih =>
    rw [streamFrom]
    set routed := requestForProvider provider request with routes
    set reserved := ((circumstances n).before limiter).reserve provider.toModelProviderConfig
      routed.toModelGatewayRequest (circumstances n).reservedAt
    dsimp only
    cases admitted : reserved.1 with
    | error limited =>
      have streams : ∀ stream, Outcome.limited limited = .streamed stream →
          stream = (circumstances n).stream provider (requestForProvider provider request) :=
        fun _ impossible => by cases impossible
      dsimp only
      split
      · rename_i allowed
        exact oneCandidate_fallBack ⟨provider, .limited limited⟩ rfl streams
          (.inl ⟨limited, rfl, allowed⟩) (ih _ _ _)
      · refine oneCandidate_single ⟨provider, .limited limited⟩ rfl streams ⟨?_, ?_⟩
        · rintro ⟨⟩
        · rintro ⟨stream, ⟨⟩, -⟩
    | ok reservation =>
      cases stream_eq : (circumstances n).stream provider routed with
      | mk deltas ending =>
      have streams : ∀ stream, Outcome.streamed ⟨deltas, ending⟩ = .streamed stream →
          stream = (circumstances n).stream provider (requestForProvider provider request) := by
        rintro _ ⟨⟩
        exact stream_eq.symm
      cases ending with
      | ok ends =>
        exact oneCandidate_single ⟨provider, .streamed ⟨deltas, .ok ()⟩⟩ rfl streams
          ⟨fun _ => ⟨_, rfl, rfl⟩, fun _ => rfl⟩
      | error error =>
        have broken : ¬(⟨provider, .streamed ⟨deltas, .error error⟩⟩ : Attempt Delta).Completed := by
          rintro ⟨stream, ⟨⟩, ⟨⟩⟩
        cases error with
        | other error =>
          exact oneCandidate_single ⟨provider, .streamed ⟨deltas, .error (.other error)⟩⟩ rfl streams
            ⟨nofun, fun completed => absurd completed broken⟩
        | response message =>
          dsimp only
          split
          · exact oneCandidate_single ⟨provider, .streamed ⟨deltas, .error (.response message)⟩⟩ rfl
              streams ⟨nofun, fun completed => absurd completed broken⟩
          · rename_i silent
            -- nothing was yielded yet
            simp only [Bool.or_eq_true, Bool.not_eq_true', not_or, Bool.not_eq_false,
              List.isEmpty_iff] at silent
            obtain ⟨rfl, allowed⟩ := silent
            exact oneCandidate_fallBack ⟨provider, .streamed ⟨[], .error (.response message)⟩⟩ rfl
              streams (.inr ⟨message, rfl, allowed⟩) (ih _ _ _)

/-- A streaming call yields what one candidate streams: the candidates are tried in their order,
each but the last one failed before its first delta with an error that its fallback policy lets
pass, and the call ends as the stream of the last one does. -/
theorem streamOperation_oneCandidate (registry : ModelProviderRegistry)
    (limiter : ModelProviderRateLimiter) (request : RoutedRequest)
    (circumstances : ℕ → Circumstances Delta)
    (some_candidate : registry.candidates request ≠ []) :
    (registry.candidates request).Pairwise (fun a b => a.sortKey request ≤ b.sortKey request) ∧
    (streamOperation registry limiter request circumstances).OneCandidate
      (registry.candidates request) request circumstances 0 := by
  refine ⟨registry.candidates_sorted request, ?_⟩
  unfold streamOperation
  cases listed : registry.candidates request with
  | nil => exact absurd listed some_candidate
  | cons provider rest =>
    exact streamFrom_oneCandidate (provider :: rest) 0 limiter none (List.cons_ne_nil _ _)

def silentProvider : RoutedProvider := { id := "silent", rateLimit := {}, priority := 1 }

def talkingProvider : RoutedProvider := { id := "talking", rateLimit := {} }

def hello : RoutedRequest := { tenantId := "tenant", workspaceId := "workspace" }

def helloCircumstances (attempt : ℕ) : Circumstances String where
  before := id
  reservedAt := (0 : Int)
  stream _ _ :=
    if attempt = 0 then ⟨[], .error (.response "model gateway stream timed out")⟩
    else ⟨["hel", "lo"], .ok ()⟩
  meanwhile := id
  recordedAt := (0 : Int)

theorem streamOperation_second_candidate :
    (streamOperation ⟨[talkingProvider, silentProvider]⟩ ⟨.limiter, [], 60⟩ hello
      helloCircumstances).OneCandidate
        (ModelProviderRegistry.candidates ⟨[talkingProvider, silentProvider]⟩ hello) hello
        helloCircumstances 0 := by
  have member := (ModelProviderRegistry.mem_candidates ⟨[talkingProvider, silentProvider]⟩ hello
    talkingProvider).mpr ⟨List.mem_cons_self, by decide⟩
  exact (streamOperation_oneCandidate _ _ _ _ (List.ne_nil_of_mem member)).2

end ModelGatewayRouter

end Taroai.ModelGateway
