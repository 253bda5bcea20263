import Mathlib
import Taroai.Clock
import Taroai.Lib.Machine
import Taroai.Lib.Table

/-! `InMemorySecretService` of `secrets/service.py`. The identifiers and the lease token that a
call draws are its arguments, and `now` is the instant that `now or utc_now()` gives. A secret
is taken away by `cleanup_created_secret` alone; nothing takes away a lease. -/

namespace Taroai.Secrets

open Unwinding (after)

structure SecretScope where
  tenantId : String
  workspaceId : Option String
  allowedToolNames : List String
  actions : List String
deriving DecidableEq, Repr

/-- A name, or the start of names before a `*`. -/
def matchesTool (allowed toolName : String) : Bool :=
  toolName == allowed ||
    (allowed.toList.getLast? == some '*' && allowed.toList.dropLast.isPrefixOf toolName.toList)

def SecretScope.allows (scope : SecretScope) (tenantId : String) (workspaceId : Option String)
    (toolName : String) (actions : List String) : Bool :=
  if scope.tenantId ≠ tenantId then false
  else if scope.workspaceId.isSome ∧ scope.workspaceId ≠ workspaceId then false
  else if scope.allowedToolNames ≠ [] ∧
      ¬scope.allowedToolNames.any (fun allowed => matchesTool allowed toolName) then false
  else actions.all fun action => scope.actions.contains action

structure SecretRef where
  id : String
  tenantId : String
  workspaceId : Option String
  name : String
  named : name ≠ ""
  scope : SecretScope
  backend : String
  externalName : Option String
  createdAt : Time
deriving Repr

structure SecretLease where
  id : String
  tenantId : String
  workspaceId : Option String
  runId : Option String
  stepId : Option String
  sessionId : Option String
  secretRefId : String
  toolName : String
  actions : List String
  leaseToken : String
  issuedAt : Time
  expiresAt : Time
deriving DecidableEq, Repr

structure SecretLeaseResolution where
  leaseId : String
  secretRefId : String
  workspaceId : Option String
  runId : Option String
  stepId : Option String
  sessionId : Option String
  toolName : String
  action : String
  expiresAt : Time
  value : String
deriving DecidableEq, Repr

inductive SecretError
  | accessDenied (message : String)
  | leaseExpired (message : String)
  | notFound (message : String)
  | validation (field : String)
deriving DecidableEq, Repr

open SecretError

structure LeaseContext where
  tenantId : String
  workspaceId : Option String
  runId : Option String
  stepId : Option String
  sessionId : Option String
  toolName : Option String
  action : Option String
deriving DecidableEq, Repr

def checkBound (requireBoundContext : Bool) (bound requested : Option String)
    (required unavailable : String) : Except SecretError Unit := do
  if requireBoundContext ∧ bound.isSome ∧ requested.isNone then throw (accessDenied required)
  if requested.isSome ∧ bound ≠ requested then throw (accessDenied unavailable)

def validateSecretLeaseResolution (lease : Option SecretLease) (context : LeaseContext)
    (requireBoundContext : Bool) (now : Time) : Except SecretError SecretLease :=
  match lease with
  | none => throw (accessDenied "secret lease is not available")
  | some lease => do
    if lease.tenantId ≠ context.tenantId then
      throw (accessDenied "secret lease is not available")
    checkBound requireBoundContext lease.workspaceId context.workspaceId
      "secret lease workspace is required" "secret lease workspace is not available"
    checkBound requireBoundContext lease.runId context.runId
      "secret lease run is required" "secret lease run is not available"
    checkBound requireBoundContext lease.stepId context.stepId
      "secret lease step is required" "secret lease step is not available"
    checkBound requireBoundContext lease.sessionId context.sessionId
      "secret lease session is required" "secret lease session is not available"
    if context.toolName.any fun toolName => lease.toolName ≠ toolName then
      throw (accessDenied "secret lease tool is not available")
    if context.action.any fun action => !lease.actions.contains action then
      throw (accessDenied "secret lease action is not available")
    if lease.expiresAt ≤ now then throw (leaseExpired "secret lease expired")
    return lease

def buildSecretLeaseResolution (lease : SecretLease) (value : String) (action : Option String) :
    SecretLeaseResolution where
  leaseId := lease.id
  secretRefId := lease.secretRefId
  workspaceId := lease.workspaceId
  runId := lease.runId
  stepId := lease.stepId
  sessionId := lease.sessionId
  toolName := lease.toolName
  action := (action.filter (· ≠ "")).getD (lease.actions.head?.getD "")
  expiresAt := lease.expiresAt
  value := value

structure CreateSecret where
  tenantId : String
  workspaceId : Option String
  name : String
  value : String
  scope : SecretScope
  createdAt : Time
  id : String

structure CreateLease where
  tenantId : String
  workspaceId : Option String
  secretId : String
  toolName : String
  actions : List String
  ttlSeconds : Int
  runId : Option String
  stepId : Option String
  sessionId : Option String
  now : Time
  id : String
  leaseToken : String

structure InMemorySecretService where
  secrets : Table SecretRef.id
  leases : Table SecretLease.leaseToken
  secretValues : Table (Prod.fst : String × String → String)

namespace InMemorySecretService

def empty : InMemorySecretService := ⟨.empty, .empty, .empty⟩

def createSecret (service : InMemorySecretService) (request : CreateSecret) :
    Except SecretError (SecretRef × InMemorySecretService) :=
  if request.scope.tenantId ≠ request.tenantId then
    .error (accessDenied "secret scope tenant does not match")
  else if request.scope.workspaceId.isSome ∧ request.scope.workspaceId ≠ request.workspaceId then
    .error (accessDenied "secret scope workspace does not match")
  else if named : request.name ≠ "" then
    let secret : SecretRef :=
      { id := request.id
        tenantId := request.tenantId
        workspaceId := request.workspaceId
        name := request.name
        named := named
        scope := request.scope
        backend := "memory"
        externalName := none
        createdAt := request.createdAt }
    .ok (secret,
      { service with
        secrets := service.secrets.put secret
        secretValues := service.secretValues.put (secret.id, request.value) })
  else .error (validation "name")

def registerSecretRef (service : InMemorySecretService) (secret : SecretRef) :
    SecretRef × InMemorySecretService :=
  (secret, { service with secrets := service.secrets.put secret })

def getSecret (service : InMemorySecretService) (tenantId secretId : String) :
    Except SecretError SecretRef :=
  match service.secrets.get? secretId with
  | none => .error (notFound s!"secret not found: {secretId}")
  | some secret =>
    if secret.tenantId ≠ tenantId then .error (accessDenied "secret is not in tenant")
    else .ok secret

def createLease (service : InMemorySecretService) (request : CreateLease) :
    Except SecretError (SecretLease × InMemorySecretService) := do
  let secret ← service.getSecret request.tenantId request.secretId
  if ¬secret.scope.allows request.tenantId request.workspaceId request.toolName request.actions then
    throw (accessDenied "secret scope does not allow this lease")
  let lease : SecretLease :=
    { id := request.id
      tenantId := request.tenantId
      workspaceId := request.workspaceId
      runId := request.runId
      stepId := request.stepId
      sessionId := request.sessionId
      secretRefId := secret.id
      toolName := request.toolName
      actions := request.actions
      leaseToken := request.leaseToken
      issuedAt := request.now
      expiresAt := request.now + seconds request.ttlSeconds }
  return (lease, { service with leases := service.leases.put lease })

def resolveLease (service : InMemorySecretService) (leaseToken : String) (context : LeaseContext)
    (requireBoundContext : Bool) (now : Time) : Except SecretError SecretLeaseResolution := do
  let lease ← validateSecretLeaseResolution (service.leases.get? leaseToken) context
    requireBoundContext now
  match service.secretValues.get? lease.secretRefId with
  | none => throw (notFound "secret value is not available")
  | some (_, value) => return buildSecretLeaseResolution lease value context.action

def rotateSecretValue (service : InMemorySecretService) (tenantId secretId value : String) :
    Except SecretError (SecretRef × InMemorySecretService) := do
  let secret ← service.getSecret tenantId secretId
  return (secret, { service with secretValues := service.secretValues.put (secret.id, value) })

/-- `cleanup_created_secret` of `secrets/verification.py`. -/
def cleanupCreatedSecret (service : InMemorySecretService) (secret : SecretRef) :
    InMemorySecretService :=
  { service with
    secrets := service.secrets.erase secret.id
    secretValues := service.secretValues.erase secret.id }

end InMemorySecretService

inductive Call
  | createSecret (request : CreateSecret)
  | registerSecretRef (secret : SecretRef)
  | createLease (request : CreateLease)
  | resolveLease (leaseToken : String) (context : LeaseContext) (requireBoundContext : Bool)
      (now : Time)
  | rotateSecretValue (tenantId secretId value : String)
  | cleanupCreatedSecret (secret : SecretRef)

inductive Answer
  | secret (secret : SecretRef)
  | lease (lease : SecretLease)
  | resolution (resolution : SecretLeaseResolution)
  | done

def settle {α : Type} (service : InMemorySecretService) (answer : α → Answer) :
    Except SecretError (α × InMemorySecretService) →
      Except SecretError Answer × InMemorySecretService
  | .error raised => (.error raised, service)
  | .ok (value, next) => (.ok (answer value), next)

def step (service : InMemorySecretService) :
    Call → Except SecretError Answer × InMemorySecretService
  | .createSecret request => settle service .secret (service.createSecret request)
  | .registerSecretRef secret => settle service .secret (.ok (service.registerSecretRef secret))
  | .createLease request => settle service .lease (service.createLease request)
  | .resolveLease leaseToken context requireBoundContext now =>
    ((service.resolveLease leaseToken context requireBoundContext now).map .resolution, service)
  | .rotateSecretValue tenantId secretId value =>
    settle service .secret (service.rotateSecretValue tenantId secretId value)
  | .cleanupCreatedSecret secret => (.ok .done, service.cleanupCreatedSecret secret)

def serviceAfter (calls : List Call) : InMemorySecretService :=
  after step InMemorySecretService.empty calls

end Taroai.Secrets
