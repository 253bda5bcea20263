import Taroai.Agents.Versions
import Taroai.Auth.PasswordReset
import Taroai.Lib.Base64
import Taroai.Lib.Substitute
import Taroai.Lib.Table

/-! API keys of agents (`agents/api_keys.py`), over the store in memory. A key is created, used and
revoked by calls; between them the accounts change their status and the registry its agents. The
hexadecimal HMAC under the hash secret is a parameter, and so is `str.lower`. The token that
`create` returns is kept for the statements. -/

namespace Taroai.Agents

open Auth (UserAccountStatus)

inductive ApiKeyError where
  | authRequired (message : String)
  | notFound (message : String)
  | tenantAccess (message : String)
  | value (message : String)
deriving DecidableEq, Repr

/-- What `agent_registry.get` returns. -/
structure RegisteredAgent extends AgentDefinition where
  id : String
  tenantId : String
  workspaceId : String
  createdByUserId : String
deriving DecidableEq, Repr

structure UserAccount where
  id : String
  tenantId : String
  status : UserAccountStatus
deriving DecidableEq, Repr

structure AgentApiKey where
  id : String
  tenantId : String
  workspaceId : String
  agentId : String
  name : String
  tokenPrefix : String
  tokenHash : String
  createdByUserId : String
  createdAt : Time
  lastUsedAt : Option Time := none
  revokedAt : Option Time := none
deriving DecidableEq, Repr

structure AgentApiKeyCreate where
  name : String
  agentId : String
deriving DecidableEq, Repr

abbrev InMemoryAgentApiKeyStore := Table AgentApiKey.id

namespace InMemoryAgentApiKeyStore

variable (store : InMemoryAgentApiKeyStore)

def get (tenantId keyId : String) : Except ApiKeyError AgentApiKey :=
  match store.get? keyId with
  | none => .error (.notFound "Agent API key not found")
  | some apiKey =>
    if apiKey.tenantId ≠ tenantId then .error (.notFound "Agent API key not found") else .ok apiKey

def touch (tenantId keyId : String) (usedAt : Time) : Except ApiKeyError InMemoryAgentApiKeyStore :=
  (get store tenantId keyId).map fun apiKey => store.put { apiKey with lastUsedAt := some usedAt }

def revoke (tenantId keyId : String) (revokedAt : Time) :
    Except ApiKeyError InMemoryAgentApiKeyStore :=
  (get store tenantId keyId).map fun apiKey => store.put { apiKey with revokedAt := some revokedAt }

end InMemoryAgentApiKeyStore

/-- `identity_service.get_user` -/
def getUser (users : Table UserAccount.id) (tenantId userId : String) :
    Except ApiKeyError UserAccount :=
  match users.get? userId with
  | none => .error (.notFound s!"User not found: {userId}")
  | some account =>
    if account.tenantId ≠ tenantId then
      .error (.tenantAccess s!"User {userId} is not in tenant {tenantId}")
    else .ok account

/-- `_set_user_status` -/
def setUserStatus (users : Table UserAccount.id) (tenantId userId : String)
    (status : UserAccountStatus) : Except ApiKeyError (Table UserAccount.id) :=
  (getUser users tenantId userId).map fun account => users.put { account with status := status }

section Tokens

def encodeLocator (tenantId keyId : String) : String :=
  String.ofList (Base64.strip (Base64.encode (tenantId ++ "\x00" ++ keyId).toUTF8.data.toList))

def tokenMark : List Char := "taak_".toList

/-- `removeprefix("taak_")` -/
def removeMark (text : List Char) : List Char :=
  if tokenMark <+: text then text.drop tokenMark.length else text

def locatorIds (token : String) : Option (String × String) := do
  let encoded := removeMark (token.toList.takeWhile fun c => c ≠ '.')
  if encoded.all fun c => c.toNat < 128 then
    let value ← Base64.decode (Base64.pad encoded)
    let text ← String.fromUTF8? value.toByteArray
    let (tenantId, keyId) ← cutAt ['\x00'] text.toList
    if tenantId = [] ∨ keyId = [] ∨ ¬tokenMark <+: token.toList then none
    else some (String.ofList tenantId, String.ofList keyId)
  else none

def decodeLocator (token : String) : Except ApiKeyError (String × String) :=
  match locatorIds token with
  | some ids => .ok ids
  | none => .error (.authRequired "Invalid Agent API key")

/-- `secrets.token_urlsafe(32)`, of the bytes drawn. -/
def tokenUrlsafe (drawn : List UInt8) : String :=
  String.ofList (Base64.strip (Base64.encode drawn))

def newToken (tenantId keyId : String) (drawn : List UInt8) : String :=
  "taak_" ++ encodeLocator tenantId keyId ++ "." ++ tokenUrlsafe drawn

/-- `f"{token.split('.', 1)[0][:40]}…"` -/
def tokenPrefix (token : String) : String :=
  String.ofList ((token.toList.takeWhile fun c => c ≠ '.').take 40) ++ "…"

def bearerToken (lower : String → String) (authorization : Option String) : Option String :=
  let text := (authorization.getD "").toList
  let (scheme, token) := (cutAt [' '] text).getD (text, [])
  if lower (String.ofList scheme) ≠ "bearer" ∨ token = [] then none
  else some (String.ofList token)

end Tokens

structure AgentApiKeyService where
  agents : List RegisteredAgent
  users : Table UserAccount.id
  store : InMemoryAgentApiKeyStore := Table.empty
  issued : List (String × String) := []

namespace AgentApiKeyService

variable (hmac : String → String) (lower : String → String) (service : AgentApiKeyService)

def hash (token : String) : String := "hmac-sha256:" ++ hmac token

/-- `agent_registry.get` -/
def agent (tenantId agentId : String) : Except ApiKeyError RegisteredAgent :=
  match service.agents.find? fun definition => definition.id = agentId with
  | none => .error (.notFound s!"Agent not found: {agentId}")
  | some definition =>
    if definition.tenantId ≠ tenantId then .error (.notFound s!"Agent not found: {agentId}")
    else .ok definition

def newKey (definition : RegisteredAgent) (tenantId userId name keyId token : String) (now : Time) :
    AgentApiKey where
  id := keyId
  tenantId := tenantId
  workspaceId := definition.workspaceId
  agentId := definition.id
  name := name
  tokenPrefix := tokenPrefix token
  tokenHash := hash hmac token
  createdByUserId := userId
  createdAt := now

def create (tenantId userId : String) (payload : AgentApiKeyCreate) (keyId : String)
    (drawn : List UInt8) (now : Time) : Except ApiKeyError (AgentApiKey × String) :=
  (service.agent tenantId payload.agentId).bind fun definition =>
    if definition.createdByUserId ≠ userId then
      .error (.tenantAccess "Only the Agent owner can create API keys")
    else if definition.publishedVersion = none then
      .error (.value "Publish this Agent before creating an API key")
    else
      let token := newToken tenantId keyId drawn
      .ok (newKey hmac definition tenantId userId payload.name keyId token now, token)

/-- `except (NotFoundError, ValueError)` -/
def caught : ApiKeyError → ApiKeyError
  | .notFound _ | .value _ => .authRequired "Invalid Agent API key"
  | error => error

def lookup (tenantId keyId : String) : Except ApiKeyError (AgentApiKey × UserAccount) :=
  (service.store.get tenantId keyId).bind fun apiKey =>
    (getUser service.users apiKey.tenantId apiKey.createdByUserId).map fun account =>
      (apiKey, account)

def authenticate (authorization : Option String) (agentId : String) :
    Except ApiKeyError AgentApiKey :=
  match bearerToken lower authorization with
  | none => .error (.authRequired "Agent API key required")
  | some token =>
    (decodeLocator token).bind fun (tenantId, keyId) =>
      ((service.lookup tenantId keyId).mapError caught).bind fun (apiKey, account) =>
        if apiKey.agentId ≠ agentId ∨ apiKey.revokedAt ≠ none ∨ account.status ≠ .active ∨
            apiKey.tokenHash ≠ hash hmac token then
          .error (.authRequired "Invalid Agent API key")
        else .ok apiKey

/-- The store after `revoke`. -/
def revoke (tenantId userId keyId : String) (now : Time) :
    Except ApiKeyError InMemoryAgentApiKeyStore :=
  (service.store.get tenantId keyId).bind fun apiKey =>
    if apiKey.createdByUserId ≠ userId then .error (.notFound "Agent API key not found")
    else service.store.revoke tenantId keyId now

inductive Call where
  | create (tenantId userId : String) (payload : AgentApiKeyCreate) (uuid : String)
      (drawn : List UInt8) (now : Time)
  | revoke (tenantId userId keyId : String) (now : Time)
  | recordUse (apiKey : AgentApiKey) (now : Time)
  | setUserStatus (tenantId userId : String) (status : UserAccountStatus)
  | register (agents : List RegisteredAgent)

/-- A call that raises changes nothing. No key id is drawn twice. -/
def step (service : AgentApiKeyService) : Call → Option AgentApiKeyService
  | .create tenantId userId payload uuid drawn now =>
    let keyId := "agent_key_" ++ uuid
    if service.store.get? keyId = none then
      match service.create hmac tenantId userId payload keyId drawn now with
      | .ok (apiKey, token) =>
        some { service with
          store := service.store.put apiKey
          issued := service.issued ++ [(apiKey.id, token)] }
      | .error _ => some service
    else none
  | .revoke tenantId userId keyId now =>
    match service.revoke tenantId userId keyId now with
    | .ok store => some { service with store := store }
    | .error _ => some service
  | .recordUse apiKey now =>
    match service.store.touch apiKey.tenantId apiKey.id now with
    | .ok store => some { service with store := store }
    | .error _ => some service
  | .setUserStatus tenantId userId status =>
    match Agents.setUserStatus service.users tenantId userId status with
    | .ok users => some { service with users := users }
    | .error _ => some service
  | .register agents => some { service with agents := agents }

end AgentApiKeyService

end Taroai.Agents
