import Taroai.Clock

/-! Invitations to a tenant (`tenancy.py`) and the accounts that accepting one makes. An
acceptance reads and writes two services; between two of its steps the invitation may be
revoked, other acceptances may take theirs, and time passes. Invitations and accounts are known
by their place in the order of creation. Audit records and display names are left out. -/

namespace Taroai.Tenancy

inductive InvitationStatus where
  | pending
  | accepted
  | revoked
  | expired
deriving DecidableEq, Repr

structure TenantInvitationRecord where
  tenantId : String
  email : String
  tokenHash : String
  expiresAt : Time
  acceptedAt : Option Time := none
  revokedAt : Option Time := none
  acceptedByUserId : Option Nat := none
deriving DecidableEq, Repr

/-- The status that `public` gives. -/
def TenantInvitationRecord.status (invitation : TenantInvitationRecord) (now : Time) :
    InvitationStatus :=
  if invitation.acceptedAt.isSome then .accepted
  else if invitation.revokedAt.isSome then .revoked
  else if invitation.expiresAt ≤ now then .expired
  else .pending

inductive UserAccountStatus where
  | active
  | pending
  | disabled
  | deleted
deriving DecidableEq, Repr

structure UserAccount where
  tenantId : String
  email : String
  passwordHash : String
  status : UserAccountStatus := .active
deriving DecidableEq, Repr

structure RoleAssignment where
  tenantId : String
  userId : Nat
  roleId : String
deriving DecidableEq, Repr

structure TenantInvitationAccept where
  tenantId : String
  token : String
  password : String
deriving DecidableEq, Repr

/-- `_token_hash` and the password hasher, which takes a salt. -/
structure Hashes where
  tokenHash : String → String → String
  hashPassword : String → String → String
  verifyPassword : String → String → Bool

def tenantMemberRoleId : String := "tenant_member"

/-- Where an acceptance is. The record found first is the one that the later steps take the
email from. -/
inductive Progress where
  | started
  | found (invitationId : Nat) (invitation : TenantInvitationRecord)
  | pending (invitationId : Nat) (invitation : TenantInvitationRecord)
  | present (invitationId : Nat) (invitation : TenantInvitationRecord)
  | verifying (invitationId : Nat) (invitation : TenantInvitationRecord) (userId : Nat)
  | joined (invitationId userId : Nat)
  | entitled (invitationId userId : Nat)
  | assigning (invitationId userId : Nat)
  | recording (invitationId userId : Nat)
  | returned (invitationId userId : Nat)
  | raised
deriving DecidableEq, Repr

/-- A call of `accept_invitation`. What it has made itself is kept for the statements. -/
structure Acceptance where
  request : TenantInvitationAccept
  progress : Progress := .started
  createdUser : Bool := false
  assignedRole : Bool := false
deriving DecidableEq, Repr

structure Organization where
  now : Time
  invitations : List TenantInvitationRecord
  users : List UserAccount
  roles : List (String × String)
  assignments : List RoleAssignment
  acceptances : List Acceptance
deriving Repr

namespace Organization

variable (s : Organization)

def putInvitation (invitationId : Nat) (f : TenantInvitationRecord → TenantInvitationRecord) :
    Organization :=
  { s with invitations := s.invitations.modify invitationId f }

def getTenantInvitationByTokenHash (tenantId tokenHash : String) : Option Nat :=
  s.invitations.findIdx? fun invitation =>
    invitation.tenantId = tenantId && invitation.tokenHash = tokenHash

/-- An invitation that `revoke_tenant_invitation` and `accept_tenant_invitation` write to. -/
def writable (tenantId : String) (invitationId : Nat) : Bool :=
  s.invitations[invitationId]?.any fun invitation =>
    invitation.tenantId = tenantId && invitation.status s.now = .pending

def revokeTenantInvitation (tenantId : String) (invitationId : Nat) : Organization :=
  if s.writable tenantId invitationId then
    s.putInvitation invitationId fun invitation => { invitation with revokedAt := some s.now }
  else s

/-- `none` when it raises. -/
def acceptTenantInvitation (tenantId : String) (invitationId userId : Nat) : Option Organization :=
  if s.writable tenantId invitationId then
    some (s.putInvitation invitationId fun invitation =>
      { invitation with acceptedAt := some s.now, acceptedByUserId := some userId })
  else none

def userIdByEmail (tenantId email : String) : Option Nat :=
  s.users.findIdx? fun account => account.tenantId = tenantId && account.email = email

def getUser (tenantId : String) (userId : Nat) : Option UserAccount :=
  s.users[userId]?.filter fun account => account.tenantId = tenantId

def verifyPassword (hashes : Hashes) (tenantId email password : String) : Bool :=
  ((s.userIdByEmail tenantId email).bind (s.users[·]?)).any fun account =>
    hashes.verifyPassword password account.passwordHash

def listRoleIdsForUser (tenantId : String) (userId : Nat) : List String :=
  (s.assignments.filter fun assignment =>
    assignment.tenantId = tenantId && assignment.userId = userId).map RoleAssignment.roleId

def ensureTenantMemberRole (tenantId : String) : Organization :=
  if (tenantId, tenantMemberRoleId) ∈ s.roles then s
  else { s with roles := s.roles ++ [(tenantId, tenantMemberRoleId)] }

/-- The next step of an acceptance: what it leaves in the services, and the call after it. The
salt is the one that a new password hash draws. -/
def acceptStep (hashes : Hashes) (salt : String) (call : Acceptance) : Organization × Acceptance :=
  let tenantId := call.request.tenantId
  match call.progress with
  | .started =>
    match s.getTenantInvitationByTokenHash tenantId (hashes.tokenHash tenantId call.request.token) with
    | none => (s, { call with progress := .raised })
    | some invitationId =>
      match s.invitations[invitationId]? with
      | none => (s, { call with progress := .raised })
      | some invitation => (s, { call with progress := .found invitationId invitation })
  | .found invitationId invitation =>
    if invitation.status s.now = .pending then
      (s, { call with progress := .pending invitationId invitation })
    else (s, { call with progress := .raised })
  | .pending invitationId invitation =>
    if (s.userIdByEmail tenantId invitation.email).isSome then
      (s, { call with progress := .present invitationId invitation })
    else
      ({ s with users := s.users ++ [
          { tenantId := tenantId
            email := invitation.email
            passwordHash := hashes.hashPassword call.request.password salt }] },
        { call with progress := .joined invitationId s.users.length, createdUser := true })
  | .present invitationId invitation =>
    match s.userIdByEmail tenantId invitation.email with
    | none => (s, { call with progress := .raised })
    | some userId =>
      if (s.getUser tenantId userId).any fun account => account.status = .active then
        (s, { call with progress := .verifying invitationId invitation userId })
      else (s, { call with progress := .raised })
  | .verifying invitationId invitation userId =>
    if s.verifyPassword hashes tenantId invitation.email call.request.password then
      (s, { call with progress := .joined invitationId userId })
    else (s, { call with progress := .raised })
  | .joined invitationId userId =>
    (s.ensureTenantMemberRole tenantId, { call with progress := .entitled invitationId userId })
  | .entitled invitationId userId =>
    if (s.getUser tenantId userId).isNone then (s, { call with progress := .raised })
    else if tenantMemberRoleId ∈ s.listRoleIdsForUser tenantId userId then
      (s, { call with progress := .recording invitationId userId })
    else (s, { call with progress := .assigning invitationId userId })
  | .assigning invitationId userId =>
    if (s.getUser tenantId userId).isNone ∨ (tenantId, tenantMemberRoleId) ∉ s.roles then
      (s, { call with progress := .raised })
    else
      ({ s with assignments := s.assignments ++ [⟨tenantId, userId, tenantMemberRoleId⟩] },
        { call with progress := .recording invitationId userId, assignedRole := true })
  | .recording invitationId userId =>
    match s.acceptTenantInvitation tenantId invitationId userId with
    | none => (s, { call with progress := .raised })
    | some accepted => (accepted, { call with progress := .returned invitationId userId })
  | .returned _ _ => (s, call)
  | .raised => (s, call)

inductive Label where
  | accept (request : TenantInvitationAccept)
  | advance (call : Nat) (salt : String)
  | revoke (tenantId : String) (invitationId : Nat)
  | wait (duration : Nat)
deriving DecidableEq, Repr

def step (hashes : Hashes) (s : Organization) : Label → Option Organization
  | .accept request => some { s with acceptances := s.acceptances ++ [{ request := request }] }
  | .advance i salt =>
    match s.acceptances[i]? with
    | none => none
    | some call =>
      let (after, next) := s.acceptStep hashes salt call
      some { after with acceptances := after.acceptances.set i next }
  | .revoke tenantId invitationId => some (s.revokeTenantInvitation tenantId invitationId)
  | .wait duration => some { s with now := s.now + duration }

end Organization

end Taroai.Tenancy
