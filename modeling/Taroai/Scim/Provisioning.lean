import Mathlib
import Taroai.Lib.Raising
import Taroai.Lib.Table
import Taroai.Lib.Whitespace
import Taroai.Tenancy.Invitations

/-! `ScimProvisioningService.apply_import` over the in-memory identity service and provisioning
store. An import that raises keeps what it has written. Accounts are known by their place in the
order of creation; `str.lower` is a parameter, and so is the order in which Python goes through a
set. Times, audit records and display names are left out. -/

namespace Taroai.Scim

open Tenancy

inductive ScimError where
  | notFound (message : String)
  | tenantAccess (message : String)
  | value (message : String)
deriving DecidableEq, Repr

section Identity

structure InMemoryIdentityService where
  users : List UserAccount := []
  roles : List (String × String) := []
  assignments : List RoleAssignment := []
deriving DecidableEq, Repr

namespace InMemoryIdentityService

variable (identity : InMemoryIdentityService)

def getUser (tenantId : String) (userId : Nat) : Except ScimError UserAccount :=
  match identity.users[userId]? with
  | none => .error (.notFound s!"User not found: {userId}")
  | some account =>
    if account.tenantId = tenantId then .ok account
    else .error (.tenantAccess s!"User {userId} is not in tenant {tenantId}")

/-- `user_ids_by_tenant_email`, for a normalised email. -/
def userIdByEmail (tenantId email : String) : Option Nat :=
  identity.users.findIdx? fun account => account.tenantId = tenantId && account.email = email

def getUserByEmail (tenantId email : String) : Except ScimError Nat :=
  match identity.userIdByEmail tenantId email with
  | none => .error (.notFound s!"User not found: {email}")
  | some userId => (identity.getUser tenantId userId).map fun _ => userId

def createUser (tenantId email passwordHash : String) : Except ScimError InMemoryIdentityService :=
  match identity.userIdByEmail tenantId email with
  | some _ => .error (.value s!"User already exists: {email}")
  | none => .ok { identity with users := identity.users ++
      [{ tenantId := tenantId, email := email, passwordHash := passwordHash }] }

/-- `_set_user_status` -/
def setUserStatus (tenantId : String) (userId : Nat) (status : UserAccountStatus) :
    Except ScimError InMemoryIdentityService :=
  (identity.getUser tenantId userId).map fun account =>
    { identity with users := identity.users.set userId { account with status := status } }

def disableUser (tenantId : String) (userId : Nat) : Except ScimError InMemoryIdentityService :=
  identity.setUserStatus tenantId userId .disabled

def roleIdsOf (tenantId : String) (userId : Nat) : List String :=
  (identity.assignments.filter fun assignment =>
    assignment.tenantId = tenantId && assignment.userId = userId).map RoleAssignment.roleId

def listRoleIdsForUser (tenantId : String) (userId : Nat) : Except ScimError (List String) :=
  (identity.getUser tenantId userId).map fun _ => identity.roleIdsOf tenantId userId

def assignRole (tenantId : String) (userId : Nat) (roleId : String) :
    Except ScimError InMemoryIdentityService :=
  (identity.getUser tenantId userId).bind fun _ =>
    if identity.roles.contains (tenantId, roleId) then
      .ok { identity with assignments := identity.assignments ++ [⟨tenantId, userId, roleId⟩] }
    else .error (.notFound s!"Role not found: {roleId}")

end InMemoryIdentityService

end Identity

section Requests

structure ScimEmail where
  value : String
  primary : Bool := false
deriving DecidableEq, Repr

/-- A user whose fields have passed their checks; a group reference is its value. -/
structure ScimUserResource where
  externalId : String
  userName : String
  active : Bool := true
  emails : List ScimEmail := []
  groups : List String := []
  emailSource : '@' ∈ userName.toList ∨ emails ≠ []
deriving DecidableEq

structure ScimGroupResource where
  externalId : String
  members : List String := []
deriving DecidableEq, Repr

structure ScimImportRequest where
  users : List ScimUserResource := []
  groups : List ScimGroupResource := []
deriving DecidableEq

/-- An email address holds an `@`, so that what is left of it is never empty. -/
def normalizeEmail (lower : String → String) (value : String) : String :=
  lower (String.ofList (strippedChars value))

def ScimUserResource.emailAddress (lower : String → String) (user : ScimUserResource) : String :=
  if named : '@' ∈ user.userName.toList then normalizeEmail lower user.userName
  else
    match user.emails.find? ScimEmail.primary with
    | some email => email.value
    | none => (user.emails.head (user.emailSource.resolve_left named)).value

/-- `_group_ids_by_user`: the groups of one user, each once. -/
def ScimImportRequest.groupIdsOf (request : ScimImportRequest) (externalId : String) :
    List String :=
  (((request.users.filter fun user => user.externalId = externalId).flatMap
      ScimUserResource.groups) ++
    ((request.groups.filter fun group => externalId ∈ group.members).map
      ScimGroupResource.externalId)).eraseDups

end Requests

section Store

inductive ScimProviderStatus where
  | draft
  | enabled
  | disabled
deriving DecidableEq, Repr

structure ScimProviderEntry where
  tenantId : String
  id : String
  defaultRoleIds : List String := []
  jitCreateUsers : Bool := true
  status : ScimProviderStatus := .draft
deriving DecidableEq, Repr

structure ScimGroupRoleMappingEntry where
  tenantId : String
  providerId : String
  groupExternalId : String
  roleIds : List String
deriving DecidableEq, Repr

structure ScimUserLink where
  tenantId : String
  providerId : String
  externalId : String
  userId : Nat
  email : String
  active : Bool
deriving DecidableEq, Repr

structure ScimImportResult where
  providerId : String
  usersSeen : Nat := 0
  usersCreated : Nat := 0
  usersLinked : Nat := 0
  usersDisabled : Nat := 0
  rolesAssigned : Nat := 0
deriving DecidableEq, Repr

structure ScimImportRecord extends ScimImportResult where
  tenantId : String
  importedByUserId : String
deriving DecidableEq, Repr

def tenantProviderKey (tenantId providerId : String) : String := tenantId ++ ":" ++ providerId

/-- `_tenant_group_key` and `_tenant_user_key` -/
def tenantItemKey (tenantId providerId item : String) : String :=
  tenantProviderKey tenantId providerId ++ ":" ++ item

def ScimProviderEntry.key (entry : ScimProviderEntry) : String :=
  tenantProviderKey entry.tenantId entry.id

def ScimGroupRoleMappingEntry.key (entry : ScimGroupRoleMappingEntry) : String :=
  tenantItemKey entry.tenantId entry.providerId entry.groupExternalId

def ScimUserLink.key (link : ScimUserLink) : String :=
  tenantItemKey link.tenantId link.providerId link.externalId

structure InMemoryScimProvisioningStore where
  providers : Table ScimProviderEntry.key := .empty
  groupRoleMappings : Table ScimGroupRoleMappingEntry.key := .empty
  userLinks : Table ScimUserLink.key := .empty
  importRecords : List ScimImportRecord := []
deriving DecidableEq

namespace InMemoryScimProvisioningStore

variable (store : InMemoryScimProvisioningStore)

def getProvider (tenantId providerId : String) : Except ScimError ScimProviderEntry :=
  match store.providers.get? (tenantProviderKey tenantId providerId) with
  | none => .error (.notFound s!"SCIM provider not found: {providerId}")
  | some entry => .ok entry

def listGroupRoleMappings (tenantId providerId : String) : List ScimGroupRoleMappingEntry :=
  store.groupRoleMappings.entries.filter fun entry =>
    entry.tenantId = tenantId && entry.providerId = providerId

def findUserLink (tenantId providerId externalId : String) : Option ScimUserLink :=
  store.userLinks.get? (tenantItemKey tenantId providerId externalId)

def upsertUserLink (link : ScimUserLink) : InMemoryScimProvisioningStore :=
  { store with userLinks := store.userLinks.put link }

def recordImportResult (record : ScimImportRecord) : InMemoryScimProvisioningStore :=
  { store with importRecords := store.importRecords ++ [record] }

end InMemoryScimProvisioningStore

end Store

/-- The order in which a loop over a set comes to its members. -/
structure SetOrder where
  iterate : List String → List String
  perm : ∀ members, (iterate members).Perm members

/-- `_role_ids_for_user`. Where two mappings had one group, the later would count. -/
def roleIdsForUser (order : SetOrder) (defaultRoleIds groupIds : List String)
    (mappings : List ScimGroupRoleMappingEntry) : List String :=
  (defaultRoleIds ++ (order.iterate groupIds).flatMap fun groupId =>
    ((mappings.reverse.find? fun entry => entry.groupExternalId = groupId).map
      ScimGroupRoleMappingEntry.roleIds).getD []).eraseDups

structure Provisioning where
  identity : InMemoryIdentityService := {}
  store : InMemoryScimProvisioningStore := {}
deriving DecidableEq

/-- A request with what else an import is given: who asks for it, the hashes of the random
passwords of new accounts, and the order of the sets. -/
structure ImportCall where
  importedByUserId : String
  request : ScimImportRequest
  passwordHash : String → String
  order : SetOrder

section Import

open Raising

abbrev Importing := Raising ScimError Provisioning

def onIdentity (change : InMemoryIdentityService → Except ScimError InMemoryIdentityService) :
    Importing Unit := fun s =>
  match change s.identity with
  | .error raised => (.error raised, s)
  | .ok identity => (.ok (), { s with identity := identity })

variable (lower : String → String) (tenantId providerId : String)

/-- `_resolve_or_create_user`: the account, and whether it is new. -/
def resolveOrCreateUser (passwordHash : String → String) (user : ScimUserResource)
    (existingLink : Option ScimUserLink) (jitCreateUsers : Bool) : Importing (Nat × Bool) :=
  match existingLink with
  | some link => do
    let _ ← consult fun s => s.identity.getUser tenantId link.userId
    pure (link.userId, false)
  | none => fun s =>
    let email := normalizeEmail lower (user.emailAddress lower)
    match s.identity.getUserByEmail tenantId email with
    | .ok userId => (.ok (userId, false), s)
    | .error (.notFound _) =>
      if jitCreateUsers then
        (do
          onIdentity fun identity =>
            identity.createUser tenantId email (passwordHash user.externalId)
          pure (s.identity.users.length, true)) s
      else
        (.error (.value s!"SCIM user is not linked and JIT creation is disabled: {user.emailAddress lower}"), s)
    | .error raised => (.error raised, s)

/-- The loop of `_assign_roles`: how many roles it has assigned. -/
def assignMissing (userId : Nat) (existing : List String) : List String → Importing Nat
  | [] => pure 0
  | roleId :: rest =>
    if roleId ∈ existing then assignMissing userId existing rest
    else do
      onIdentity fun identity => identity.assignRole tenantId userId roleId
      let assigned ← assignMissing userId (roleId :: existing) rest
      pure (assigned + 1)

def assignRoles (userId : Nat) (roleIds : List String) : Importing Nat := do
  let existing ← consult fun s => s.identity.listRoleIdsForUser tenantId userId
  assignMissing tenantId userId existing roleIds

/-- What the loop of `apply_import` does for one user. -/
def importUser (call : ImportCall) (provider : ScimProviderEntry)
    (mappings : List ScimGroupRoleMappingEntry) (result : ScimImportResult)
    (user : ScimUserResource) : Importing ScimImportResult := do
  let existingLink ← read fun s => s.store.findUserLink tenantId providerId user.externalId
  let seen := { result with usersSeen := result.usersSeen + 1 }
  if user.active then
    let (userId, created) ← resolveOrCreateUser lower tenantId call.passwordHash user existingLink
      provider.jitCreateUsers
    update fun s => { s with store := s.store.upsertUserLink {
      tenantId := tenantId
      providerId := providerId
      externalId := user.externalId
      userId := userId
      email := user.emailAddress lower
      active := true } }
    let assigned ← assignRoles tenantId userId
      (roleIdsForUser call.order provider.defaultRoleIds
        (call.request.groupIdsOf user.externalId) mappings)
    pure { seen with
      usersCreated := seen.usersCreated + if created then 1 else 0
      usersLinked := seen.usersLinked + if !created && existingLink.isNone then 1 else 0
      rolesAssigned := seen.rolesAssigned + assigned }
  else
    match existingLink with
    | none => pure seen
    | some link => do
      onIdentity fun identity => identity.disableUser tenantId link.userId
      update fun s => { s with store := s.store.upsertUserLink {
        tenantId := tenantId
        providerId := providerId
        externalId := user.externalId
        userId := link.userId
        email := link.email
        active := false } }
      pure { seen with usersDisabled := seen.usersDisabled + 1 }

def importUsers (call : ImportCall) (provider : ScimProviderEntry)
    (mappings : List ScimGroupRoleMappingEntry) (result : ScimImportResult) :
    List ScimUserResource → Importing ScimImportResult
  | [] => pure result
  | user :: rest => do
    let result ← importUser lower tenantId providerId call provider mappings result user
    importUsers call provider mappings result rest

def applyImport (call : ImportCall) : Importing ScimImportResult := do
  let entry ← consult fun s => s.store.getProvider tenantId providerId
  ensure (entry.status = .enabled) (.value "SCIM provider must be enabled before importing users")
  let mappings ← read fun s => s.store.listGroupRoleMappings tenantId providerId
  let result ← importUsers lower tenantId providerId call entry mappings
    { providerId := providerId } call.request.users
  update fun s => { s with store := s.store.recordImportResult {
    result with
    tenantId := tenantId
    importedByUserId := call.importedByUserId } }
  pure result

def step (s : Provisioning) (call : ImportCall) : Option Provisioning :=
  some (applyImport lower tenantId providerId call s).2

end Import

end Taroai.Scim
