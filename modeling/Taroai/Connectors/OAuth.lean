import Taroai.Clock
import Mathlib.Data.List.Basic

/-! `ConnectorOAuthService`: authorization states, and the calls that bring a connector its tokens.
A call goes on step by step, and between two of its steps other calls take theirs. It may fail at
any of them: a secret is not available, the token request fails, the process stops. States and
calls are known by their place in the order of creation; the read of the clock and the consumption
of a state are one step. -/

namespace Taroai.Connectors.OAuth

structure OAuthConnectorConfig where
  accessTokenSecretRefId : String
  refreshTokenSecretRefId : Option String := none
  stateTtlSeconds : Nat := 600
deriving DecidableEq, Repr

structure ConnectorDefinition where
  id : String
  tenantId : String
  workspaceId : String
  oauth2 : OAuthConnectorConfig
deriving DecidableEq, Repr

structure OAuthAuthorizationSession where
  tenantId : String
  workspaceId : String
  connectorId : String
  requestedByUserId : String
  expiresAt : Time
deriving DecidableEq, Repr

structure OAuthTokenResponse where
  accessToken : String
  refreshToken : Option String := none
deriving DecidableEq, Repr

/-- The value of a secret. The call whose token request was answered with it is kept for the
statements. -/
structure StoredSecret where
  value : String
  response : Option Nat := none
deriving DecidableEq, Repr

inductive CallKind where
  | completeCallback (state : Nat)
  | refresh
deriving DecidableEq, Repr

inductive Progress where
  | started
  | authorized
  | holding (refreshToken : String)
  | answered (response : OAuthTokenResponse)
  | accessStored (response : OAuthTokenResponse)
  | returned
  | raised
deriving DecidableEq, Repr

structure TokenCall where
  connector : ConnectorDefinition
  kind : CallKind
  progress : Progress := .started
  acceptedAt : Option Time := none
deriving DecidableEq, Repr

/-- All sessions that were issued, with the states that are still there to be consumed. -/
structure ConnectorOAuthService where
  now : Time
  issued : List OAuthAuthorizationSession := []
  pendingStates : List Nat := []
  values : String → StoredSecret
  calls : List TokenCall := []

namespace ConnectorOAuthService

variable (s : ConnectorOAuthService)

/-- The part of `build_authorization_url` that comes before the reading of the client id. -/
def issue (connector : ConnectorDefinition) (requestedByUserId : String) :
    ConnectorOAuthService :=
  { s with
    issued := s.issued ++ [{
      tenantId := connector.tenantId
      workspaceId := connector.workspaceId
      connectorId := connector.id
      requestedByUserId := requestedByUserId
      expiresAt := s.now + seconds connector.oauth2.stateTtlSeconds }]
    pendingStates := s.pendingStates ++ [s.issued.length] }

def find (state : Nat) : Option OAuthAuthorizationSession :=
  if state ∈ s.pendingStates then s.issued[state]? else none

def pop (state : Nat) : ConnectorOAuthService :=
  { s with pendingStates := s.pendingStates.filter (· ≠ state) }

def pendingAuthorization (state : Nat) :
    Except String OAuthAuthorizationSession × ConnectorOAuthService :=
  match s.find state with
  | none => (.error "OAuth state is invalid or already consumed", s)
  | some session =>
    if session.expiresAt ≤ s.now then (.error "OAuth state has expired", s.pop state)
    else (.ok session, s)

/-- `_consume_state`, after which the state is gone whatever the answer is. -/
def consumeState (connector : ConnectorDefinition) (state : Nat) :
    Except String OAuthAuthorizationSession :=
  match s.find state with
  | none => .error "OAuth state is invalid"
  | some session =>
    if session.tenantId ≠ connector.tenantId ∨ session.workspaceId ≠ connector.workspaceId ∨
        session.connectorId ≠ connector.id then
      .error "OAuth state does not match connector"
    else if session.expiresAt ≤ s.now then .error "OAuth state expired"
    else .ok session

def rotateSecretValue (secretId : String) (secret : StoredSecret) : ConnectorOAuthService :=
  { s with values := fun id => if id = secretId then secret else s.values id }

def putCall (i : Nat) (call : TokenCall) : ConnectorOAuthService :=
  { s with calls := s.calls.set i call }

/-- The second part of `_store_tokens`. -/
def storeRefreshToken (i : Nat) (connector : ConnectorDefinition)
    (response : OAuthTokenResponse) : ConnectorOAuthService :=
  match connector.oauth2.refreshTokenSecretRefId, response.refreshToken with
  | some refreshRef, some refreshToken => s.rotateSecretValue refreshRef ⟨refreshToken, some i⟩
  | _, _ => s

def advance (i : Nat) (call : TokenCall) : Option ConnectorOAuthService :=
  match call.progress with
  | .started =>
    match call.kind with
    | .completeCallback state =>
      match s.consumeState call.connector state with
      | .ok _ => some ((s.pop state).putCall i
          { call with progress := .authorized, acceptedAt := some s.now })
      | .error _ => some ((s.pop state).putCall i { call with progress := .raised })
    | .refresh =>
      match call.connector.oauth2.refreshTokenSecretRefId with
      | none => some (s.putCall i { call with progress := .raised })
      | some refreshRef =>
        some (s.putCall i { call with progress := .holding (s.values refreshRef).value })
  | .answered response =>
    some ((s.rotateSecretValue call.connector.oauth2.accessTokenSecretRefId
      ⟨response.accessToken, some i⟩).putCall i { call with progress := .accessStored response })
  | .accessStored response =>
    some ((s.storeRefreshToken i call.connector response).putCall i
      { call with progress := .returned })
  | .authorized | .holding _ | .returned | .raised => none

def answer (i : Nat) (call : TokenCall) (response : OAuthTokenResponse) :
    Option ConnectorOAuthService :=
  match call.progress with
  | .authorized | .holding _ => some (s.putCall i { call with progress := .answered response })
  | _ => none

end ConnectorOAuthService

def TokenCall.InProgress (call : TokenCall) : Prop :=
  call.progress ≠ .returned ∧ call.progress ≠ .raised

instance (call : TokenCall) : Decidable call.InProgress := inferInstanceAs (Decidable (_ ∧ _))

/-- `drop` is what Redis does to a state when its time is over. -/
inductive Label where
  | issue (connector : ConnectorDefinition) (requestedByUserId : String)
  | pendingAuthorization (state : Nat)
  | drop (state : Nat)
  | call (connector : ConnectorDefinition) (kind : CallKind)
  | advance (i : Nat)
  | answer (i : Nat) (response : OAuthTokenResponse)
  | fail (i : Nat)
  | wait (duration : Nat)
deriving DecidableEq, Repr

def step (s : ConnectorOAuthService) : Label → Option ConnectorOAuthService
  | .issue connector requestedByUserId => some (s.issue connector requestedByUserId)
  | .pendingAuthorization state => some (s.pendingAuthorization state).2
  | .drop state => some (s.pop state)
  | .call connector kind =>
    some { s with calls := s.calls ++ [{ connector := connector, kind := kind }] }
  | .advance i => s.calls[i]?.bind (s.advance i)
  | .answer i response => s.calls[i]?.bind fun call => s.answer i call response
  | .fail i => s.calls[i]?.bind fun call =>
      if call.InProgress then some (s.putCall i { call with progress := .raised }) else none
  | .wait duration => some { s with now := s.now + duration }

def start (now : Time) (values : String → String) : ConnectorOAuthService :=
  { now := now, values := fun id => { value := values id } }

end Taroai.Connectors.OAuth
