import Mathlib.Data.List.Forall2
import Mathlib.Data.List.Induction
import Taroai.Lib.Json
import Taroai.Secrets.Service

/-! Which requests a lease answers when a bound context is required. The tool and the action are
compared only where the request names them; a lease has no state but its expiry. -/

namespace Taroai.Secrets

open SecretError

/-- What the context must have in common with a lease at the time of the request. -/
structure SecretLease.Bound (lease : SecretLease) (context : LeaseContext) (now : Time) : Prop where
  tenant : lease.tenantId = context.tenantId
  workspace : lease.workspaceId = context.workspaceId
  run : lease.runId = context.runId
  step : lease.stepId = context.stepId
  session : lease.sessionId = context.sessionId
  tool : ∀ toolName ∈ context.toolName, lease.toolName = toolName
  action : ∀ action ∈ context.action, action ∈ lease.actions
  unexpired : now < lease.expiresAt

section Resolution

theorem unless_ok {β : Type} {c : Prop} [Decidable c] {raised : SecretError}
    {next : Except SecretError β} {b : β} :
    (do
      if c then throw raised
      next) = .ok b ↔ ¬c ∧ next = .ok b := by
  by_cases raises : c
  · simp [raises, bind, Except.bind, throw, throwThe, MonadExceptOf.throw]
  · simp [raises]

theorem checkBound_ok {bound requested : Option String} {required unavailable : String}
    {done : Unit} :
    checkBound true bound requested required unavailable = .ok done ↔ bound = requested := by
  cases bound with
  | none =>
    cases requested with
    | none => exact iff_of_true rfl rfl
    | some wanted => simp [checkBound]
  | some held =>
    cases requested with
    | none => simp [checkBound]
    | some wanted =>
      by_cases same : held = wanted
      · rw [same]
        exact iff_of_true (by simp [checkBound]; rfl) rfl
      · simp [checkBound, same]

theorem validate_ok {found : Option SecretLease} {context : LeaseContext} {now : Time}
    {lease : SecretLease} :
    validateSecretLeaseResolution found context true now = .ok lease ↔
      found = some lease ∧ lease.Bound context now := by
  cases found with
  | none => exact iff_of_false (by intro; contradiction) (by rintro ⟨same, -⟩; cases same)
  | some stored =>
    simp only [validateSecretLeaseResolution, unless_ok, Json.except_bind_ok, checkBound_ok,
      not_not, not_le]
    constructor
    · rintro ⟨tenant, -, workspace, -, run, -, step, -, session, tool, action, unexpired, same⟩
      cases same
      refine ⟨rfl, tenant, workspace, run, step, session, fun name named => ?_,
        fun name named => ?_, unexpired⟩
      · rw [Option.mem_def.mp named] at tool
        simpa using tool
      · rw [Option.mem_def.mp named] at action
        simpa using action
    · rintro ⟨same, bound⟩
      cases same
      refine ⟨bound.tenant, (), bound.workspace, (), bound.run, (), bound.step, (), bound.session,
        ?_, ?_, bound.unexpired, rfl⟩
      · cases named : context.toolName with
        | none =>
          intro impossible
          cases impossible
        | some name => simpa using bound.tool name named
      · cases named : context.action with
        | none =>
          intro impossible
          cases impossible
        | some name => simpa using bound.action name named

theorem resolveLease_ok {service : InMemorySecretService} {leaseToken : String}
    {context : LeaseContext} {now : Time} {resolution : SecretLeaseResolution} :
    service.resolveLease leaseToken context true now = .ok resolution ↔
      ∃ lease value, service.leases.get? leaseToken = some lease ∧ lease.Bound context now ∧
        service.secretValues.get? lease.secretRefId = some (lease.secretRefId, value) ∧
        resolution = buildSecretLeaseResolution lease value context.action := by
  unfold InMemorySecretService.resolveLease
  rw [Json.except_bind_ok]
  simp only [validate_ok]
  constructor
  · rintro ⟨lease, ⟨stored, bound⟩, answered⟩
    split at answered
    · cases answered
    · next key value held =>
      cases answered
      have same : key = lease.secretRefId := Table.key_of_get? held
      exact ⟨lease, value, stored, bound, same ▸ held, rfl⟩
  · rintro ⟨lease, value, stored, bound, held, rfl⟩
    exact ⟨lease, ⟨stored, bound⟩, by rw [held]; rfl⟩

end Resolution

section Creation

variable {service next : InMemorySecretService}

theorem getSecret_ok {tenantId secretId : String} {secret : SecretRef}
    (found : service.getSecret tenantId secretId = .ok secret) :
    service.secrets.get? secretId = some secret ∧ secret.tenantId = tenantId := by
  unfold InMemorySecretService.getSecret at found
  split at found
  · cases found
  · next held stored =>
    split at found
    · cases found
    · next own =>
      cases found
      exact ⟨stored, not_not.mp own⟩

structure SecretRef.Covers (secret : SecretRef) (lease : SecretLease) : Prop where
  tenant : secret.tenantId = lease.tenantId
  scope : secret.scope.allows lease.tenantId lease.workspaceId lease.toolName lease.actions = true

theorem createLease_ok {request : CreateLease} {lease : SecretLease}
    (created : service.createLease request = .ok (lease, next)) :
    next = { service with leases := service.leases.put lease } ∧
      lease.leaseToken = request.leaseToken ∧
      ∃ secret, service.secrets.get? lease.secretRefId = some secret ∧ secret.Covers lease := by
  unfold InMemorySecretService.createLease at created
  obtain ⟨secret, found, created⟩ := Json.except_bind_ok.mp created
  obtain ⟨allowed, created⟩ := unless_ok.mp created
  cases created
  obtain ⟨stored, own⟩ := getSecret_ok found
  refine ⟨rfl, rfl, secret, ?_, own, not_not.mp allowed⟩
  rwa [Table.key_of_get? stored]

theorem createSecret_leases {request : CreateSecret} {secret : SecretRef}
    (created : service.createSecret request = .ok (secret, next)) :
    next.leases = service.leases := by
  unfold InMemorySecretService.createSecret at created
  split_ifs at created
  cases created
  rfl

theorem rotateSecretValue_leases {tenantId secretId value : String} {secret : SecretRef}
    (rotated : service.rotateSecretValue tenantId secretId value = .ok (secret, next)) :
    next.leases = service.leases := by
  obtain ⟨held, found, rotated⟩ := Json.except_bind_ok.mp rotated
  cases rotated
  rfl

theorem settle_state {α : Type} (answer : α → Answer)
    (result : Except SecretError (α × InMemorySecretService)) :
    (settle service answer result).2 = service ∨
      ∃ value, result = .ok (value, (settle service answer result).2) := by
  cases result with
  | error raised => exact .inl rfl
  | ok value => exact .inr ⟨value.1, rfl⟩

theorem leases_step (service : InMemorySecretService) (call : Call) :
    (step service call).2.leases = service.leases ∨
      ∃ request lease next, call = .createLease request ∧
        service.createLease request = .ok (lease, next) ∧
        (step service call).2.leases = service.leases.put lease := by
  cases call with
  | createSecret request =>
    refine .inl ?_
    rcases settle_state .secret (service.createSecret request) with same | ⟨secret, created⟩
    · rw [step, same]
    · rw [step, createSecret_leases created]
  | registerSecretRef secret => exact .inl rfl
  | createLease request =>
    rcases settle_state .lease (service.createLease request) with same | ⟨lease, created⟩
    · exact .inl (by rw [step, same])
    · refine .inr ⟨request, lease, _, rfl, created, ?_⟩
      rw [step, (createLease_ok created).1]
  | resolveLease _ _ _ _ => exact .inl rfl
  | rotateSecretValue tenantId secretId value =>
    refine .inl ?_
    rcases settle_state .secret (service.rotateSecretValue tenantId secretId value) with
      same | ⟨secret, rotated⟩
    · rw [step, same]
    · rw [step, rotateSecretValue_leases rotated]
  | cleanupCreatedSecret secret => exact .inl rfl

theorem lease_of_step {call : Call} {leaseToken : String} {lease : SecretLease}
    (stored : (step service call).2.leases.get? leaseToken = some lease) :
    service.leases.get? leaseToken = some lease ∨
      ∃ request next, call = .createLease request ∧
        service.createLease request = .ok (lease, next) := by
  rcases leases_step service call with same | ⟨request, made, next, rfl, created, put⟩
  · rw [same] at stored
    exact .inl stored
  · rw [put, Table.get?_put] at stored
    split at stored
    · cases stored
      exact .inr ⟨request, next, rfl, created⟩
    · exact .inl stored

theorem lease_kept {call : Call} {leaseToken : String} {lease : SecretLease}
    (stored : service.leases.get? leaseToken = some lease)
    (other : ∀ request, call = .createLease request → request.leaseToken ≠ leaseToken) :
    (step service call).2.leases.get? leaseToken = some lease := by
  rcases leases_step service call with same | ⟨request, made, next, rfl, created, put⟩
  · rwa [same]
  · have token := (createLease_ok created).2.1
    rwa [put, Table.get?_put_ne _ _ (token ▸ (other request rfl).symm)]

def CreatedUnder (calls : List Call) (lease : SecretLease) (secret : SecretRef) : Prop :=
  ∃ earlier request later next, calls = earlier ++ Call.createLease request :: later ∧
    (serviceAfter earlier).createLease request = .ok (lease, next) ∧
    (serviceAfter earlier).secrets.get? lease.secretRefId = some secret

theorem serviceAfter_snoc (calls : List Call) (call : Call) :
    serviceAfter (calls ++ [call]) = (step (serviceAfter calls) call).2 := by
  rw [serviceAfter, Unwinding.after, List.foldl_append]
  rfl

theorem lease_created {calls : List Call} {leaseToken : String} {lease : SecretLease}
    (stored : (serviceAfter calls).leases.get? leaseToken = some lease) :
    ∃ secret, CreatedUnder calls lease secret ∧ secret.Covers lease := by
  induction calls using List.reverseRecOn with
  | nil => cases stored
  | append_singleton calls call ih =>
    rw [serviceAfter_snoc] at stored
    rcases lease_of_step stored with before | ⟨request, next, rfl, created⟩
    · obtain ⟨secret, ⟨earlier, request, later, next, rfl, made⟩, covers⟩ := ih before
      exact ⟨secret, ⟨earlier, request, later ++ [call], next, by simp, made⟩, covers⟩
    · obtain ⟨-, -, secret, held, covers⟩ := createLease_ok created
      exact ⟨secret, ⟨calls, request, [], next, rfl, created, held⟩, covers⟩

theorem lease_stays {calls : List Call} {leaseToken : String} {lease : SecretLease}
    (stored : (serviceAfter calls).leases.get? leaseToken = some lease) {later : List Call}
    (other : ∀ request, Call.createLease request ∈ later → request.leaseToken ≠ leaseToken) :
    (serviceAfter (calls ++ later)).leases.get? leaseToken = some lease := by
  induction later using List.reverseRecOn with
  | nil => rwa [List.append_nil]
  | append_singleton later call ih =>
    rw [← List.append_assoc, serviceAfter_snoc]
    refine lease_kept (ih fun request among => other request (List.mem_append_left _ among)) ?_
    rintro request rfl
    exact other request (List.mem_append_right _ List.mem_cons_self)

end Creation

section Values

variable {s t : InMemorySecretService}

structure InMemorySecretService.Alike (s t : InMemorySecretService) : Prop where
  secrets : s.secrets = t.secrets
  leases : s.leases = t.leases
  held : ∀ id, (s.secretValues.get? id).isSome = (t.secretValues.get? id).isSome

inductive Call.Alike : Call → Call → Prop
  | createSecret (request : CreateSecret) (value : String) :
      Alike (.createSecret request) (.createSecret { request with value := value })
  | rotateSecretValue (tenantId secretId value value' : String) :
      Alike (.rotateSecretValue tenantId secretId value)
        (.rotateSecretValue tenantId secretId value')
  | same (call : Call) : Alike call call

theorem held_put {u v : Table (Prod.fst : String × String → String)}
    (held : ∀ id, (u.get? id).isSome = (v.get? id).isSome) (key value value' id : String) :
    ((u.put (key, value)).get? id).isSome = ((v.put (key, value')).get? id).isSome := by
  rw [Table.get?_put, Table.get?_put]
  split
  · rfl
  · exact held id

theorem held_erase {u v : Table (Prod.fst : String × String → String)}
    (held : ∀ id, (u.get? id).isSome = (v.get? id).isSome) (key id : String) :
    ((u.erase key).get? id).isSome = ((v.erase key).get? id).isSome := by
  rw [Table.get?_erase, Table.get?_erase]
  split
  · rfl
  · exact held id

theorem getSecret_alike (alike : s.Alike t) (tenantId secretId : String) :
    s.getSecret tenantId secretId = t.getSecret tenantId secretId := by
  rw [InMemorySecretService.getSecret, InMemorySecretService.getSecret, alike.secrets]

theorem alike_createSecret (alike : s.Alike t) (request : CreateSecret) (value : String) :
    (step s (.createSecret request)).2.Alike
      (step t (.createSecret { request with value := value })).2 := by
  simp only [step, InMemorySecretService.createSecret]
  split_ifs with tenant workspace named
  · exact alike
  · exact alike
  · exact ⟨congrArg (Table.put · _) alike.secrets, alike.leases, held_put alike.held _ _ _⟩
  · exact alike

theorem alike_rotate (alike : s.Alike t) (tenantId secretId value value' : String) :
    (step s (.rotateSecretValue tenantId secretId value)).2.Alike
      (step t (.rotateSecretValue tenantId secretId value')).2 := by
  simp only [step, InMemorySecretService.rotateSecretValue, getSecret_alike alike]
  cases t.getSecret tenantId secretId with
  | error raised => exact alike
  | ok secret => exact ⟨alike.secrets, alike.leases, held_put alike.held _ _ _⟩

theorem alike_createLease (alike : s.Alike t) (request : CreateLease) :
    (step s (.createLease request)).2.Alike (step t (.createLease request)).2 := by
  simp only [step, InMemorySecretService.createLease, getSecret_alike alike]
  cases t.getSecret request.tenantId request.secretId with
  | error raised => exact alike
  | ok secret =>
    by_cases allowed : secret.scope.allows request.tenantId request.workspaceId request.toolName
      request.actions
    · simp only [bind, Except.bind, allowed]
      exact ⟨alike.secrets, congrArg (Table.put · _) alike.leases, alike.held⟩
    · simp only [bind, Except.bind, allowed]
      exact alike

theorem alike_step {call call' : Call} (alike : s.Alike t) (calls : call.Alike call') :
    (step s call).2.Alike (step t call').2 := by
  cases calls with
  | createSecret request value => exact alike_createSecret alike request value
  | rotateSecretValue tenantId secretId value value' =>
    exact alike_rotate alike tenantId secretId value value'
  | same =>
    cases call with
    | createSecret request => exact alike_createSecret alike request request.value
    | rotateSecretValue tenantId secretId value =>
      exact alike_rotate alike tenantId secretId value value
    | registerSecretRef secret =>
      exact ⟨congrArg (Table.put · secret) alike.secrets, alike.leases, alike.held⟩
    | resolveLease leaseToken context requireBoundContext now => exact alike
    | cleanupCreatedSecret secret =>
      exact ⟨congrArg (Table.erase · secret.id) alike.secrets, alike.leases,
        held_erase alike.held secret.id⟩
    | createLease request => exact alike_createLease alike request

theorem alike_run {calls calls' : List Call} (alike : List.Forall₂ Call.Alike calls calls') :
    (serviceAfter calls).Alike (serviceAfter calls') := by
  refine List.rel_foldl ?_ ⟨rfl, rfl, fun _ => rfl⟩ alike
  intro _ _ states _ _ called
  exact alike_step states called

theorem resolveLease_error_alike (alike : s.Alike t) {leaseToken : String} {context : LeaseContext}
    {requireBoundContext : Bool} {now : Time} {raised : SecretError}
    (refused : s.resolveLease leaseToken context requireBoundContext now = .error raised) :
    t.resolveLease leaseToken context requireBoundContext now = .error raised := by
  unfold InMemorySecretService.resolveLease at refused ⊢
  rw [← alike.leases]
  cases valid : validateSecretLeaseResolution (s.leases.get? leaseToken) context
      requireBoundContext now with
  | error message =>
    rw [valid] at refused
    exact refused
  | ok lease =>
    rw [valid] at refused
    simp only [bind, Except.bind] at refused ⊢
    have held := alike.held lease.secretRefId
    cases behind : s.secretValues.get? lease.secretRefId with
    | none =>
      have absent : t.secretValues.get? lease.secretRefId = none := by
        rw [behind] at held
        simpa using held.symm
      rw [behind] at refused
      rw [absent]
      exact refused
    | some value =>
      rw [behind] at refused
      cases refused

end Values

theorem allows_action {scope : SecretScope} {tenantId toolName action : String}
    {workspaceId : Option String} {actions : List String}
    (allowed : scope.allows tenantId workspaceId toolName actions = true)
    (among : action ∈ actions) : scope.allows tenantId workspaceId toolName [action] = true := by
  unfold SecretScope.allows at allowed ⊢
  split_ifs at allowed ⊢
  simpa using List.all_eq_true.mp allowed action among

/-- With a bound context required, a request gets the value behind a lease exactly when the lease
is stored and unexpired, has the tenant and the bound fields of the request, and is for the tool
and the action where the request names them. The scope of the secret allowed these when the lease
was made, and nothing revokes it later. All other requests are refused, whatever the values of
the secrets are. -/
theorem lease_binding (calls : List Call) (leaseToken : String) (context : LeaseContext)
    (now : Time) :
    (∀ resolution,
      (serviceAfter calls).resolveLease leaseToken context true now = .ok resolution ↔
        ∃ lease value secret,
          (serviceAfter calls).leases.get? leaseToken = some lease ∧ lease.Bound context now ∧
          CreatedUnder calls lease secret ∧ secret.Covers lease ∧
          (∀ toolName ∈ context.toolName, ∀ action ∈ context.action,
            secret.scope.allows context.tenantId context.workspaceId toolName [action] = true) ∧
          (serviceAfter calls).secretValues.get? lease.secretRefId =
            some (lease.secretRefId, value) ∧
          resolution = buildSecretLeaseResolution lease value context.action) ∧
    (∀ raised, (serviceAfter calls).resolveLease leaseToken context true now = .error raised →
      ∀ calls', List.Forall₂ Call.Alike calls calls' →
        (serviceAfter calls').resolveLease leaseToken context true now = .error raised) ∧
    ∀ lease, (serviceAfter calls).leases.get? leaseToken = some lease →
      ∀ later, (∀ request, Call.createLease request ∈ later → request.leaseToken ≠ leaseToken) →
        (serviceAfter (calls ++ later)).leases.get? leaseToken = some lease := by
  refine ⟨fun resolution => resolveLease_ok.trans ⟨?_, ?_⟩, ?_,
    fun _ stored _ => lease_stays stored⟩
  · rintro ⟨lease, value, stored, bound, held, same⟩
    obtain ⟨secret, created, covers⟩ := lease_created stored
    refine ⟨lease, value, secret, stored, bound, created, covers, ?_, held, same⟩
    intro toolName named action wanted
    rw [← bound.tenant, ← bound.workspace, ← bound.tool toolName named]
    exact allows_action covers.scope (bound.action action wanted)
  · rintro ⟨lease, value, secret, stored, bound, -, -, -, held, same⟩
    exact ⟨lease, value, stored, bound, held, same⟩
  · intro raised refused calls' alike
    exact resolveLease_error_alike (alike_run alike) refused

def repositoryScope : SecretScope where
  tenantId := "tenant"
  workspaceId := some "workspace"
  allowedToolNames := ["github.*"]
  actions := ["read", "write"]

def repositoryCalls : List Call :=
  [.createSecret
    { tenantId := "tenant"
      workspaceId := some "workspace"
      name := "token"
      value := "hidden"
      scope := repositoryScope
      createdAt := 0
      id := "secret" },
   .createLease
    { tenantId := "tenant"
      workspaceId := some "workspace"
      secretId := "secret"
      toolName := "github.pulls"
      actions := ["read"]
      ttlSeconds := 60
      runId := some "run"
      stepId := some "step"
      sessionId := none
      now := 0
      id := "lease"
      leaseToken := "handle" }]

def unnamedUse : LeaseContext where
  tenantId := "tenant"
  workspaceId := some "workspace"
  runId := some "run"
  stepId := some "step"
  sessionId := none
  toolName := none
  action := none

/-- A request that names no tool gets the value of a lease that has one. -/
theorem unnamed_tool_resolved : ¬ ∀ (calls : List Call) (leaseToken : String)
    (context : LeaseContext) (now : Time) (resolution : SecretLeaseResolution),
    (serviceAfter calls).resolveLease leaseToken context true now = .ok resolution →
      ∃ lease, (serviceAfter calls).leases.get? leaseToken = some lease ∧
        lease.Bound context now ∧ context.toolName = some lease.toolName ∧
        ∃ action, context.action = some action ∧ action ∈ lease.actions := by
  intro bound
  have answered : ((serviceAfter repositoryCalls).resolveLease "handle" unnamedUse true
      1).toOption.isSome = true := by decide +kernel
  cases resolved : (serviceAfter repositoryCalls).resolveLease "handle" unnamedUse true 1 with
  | error raised =>
    rw [resolved] at answered
    cases answered
  | ok resolution =>
    obtain ⟨lease, -, -, named, -⟩ := bound _ _ _ _ resolution resolved
    cases named

end Taroai.Secrets
