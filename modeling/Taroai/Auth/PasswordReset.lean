import Taroai.Clock

/-! Logins and password resets of one account (`auth/service.py`, `auth/sessions.py`), step by
step. Hashes and signatures are ideal: a password hash is the password with the salt it was
made with, no salt is drawn twice, and what is signed or fingerprinted with a hash is known to
belong to it. Sessions, logins and resets are known by their place in the order of creation. -/

namespace Taroai.Auth

structure PasswordHash where
  password : String
  salt : Nat
deriving DecidableEq, Repr

inductive UserAccountStatus where
  | active
  | pending
  | disabled
  | deleted
deriving DecidableEq, Repr

structure UserAccount where
  passwordHash : PasswordHash
  status : UserAccountStatus
deriving DecidableEq, Repr

inductive AuthActionPurpose where
  | emailVerification
  | passwordReset
deriving DecidableEq, Repr

/-- A token the service has issued for the account. The credential is the password hash that its
fingerprint and its signature were made with. -/
structure ActionToken where
  purpose : AuthActionPurpose
  credential : PasswordHash
  expiresAt : Time
deriving DecidableEq, Repr

structure AuthSession where
  issuedAt : Time
  expiresAt : Time
  revokedAt : Option Time := none
  verified : PasswordHash
deriving DecidableEq, Repr

def AuthSession.revoke (session : AuthSession) (revokedAt : Time) : AuthSession :=
  if session.revokedAt.isNone then { session with revokedAt := some revokedAt } else session

structure Login where
  verified : PasswordHash
  ttlSeconds : Int
  session : Option Nat := none
deriving DecidableEq, Repr

inductive ResetProgress where
  | validated
  | updated (installed : Nat)
  | completed (installed : Nat)
deriving DecidableEq, Repr

/-- A reset whose token was accepted. How many salts had been drawn by then is kept for the
statements. -/
structure Reset where
  token : ActionToken
  password : String
  resetAt : Time
  seen : Nat
  progress : ResetProgress := .validated
deriving DecidableEq, Repr

def Reset.installed (reset : Reset) : Option Nat :=
  match reset.progress with
  | .validated => none
  | .updated installed | .completed installed => some installed

structure Service where
  now : Time
  account : UserAccount
  salts : Nat
  tokens : List ActionToken
  sessions : List AuthSession
  logins : List Login
  resets : List Reset
deriving Repr

inductive AuthRequired where
  | invalidToken
  | revoked
  | expired
deriving DecidableEq, Repr

namespace Service

variable (s : Service)

def verifyPassword (password : String) : Bool := s.account.passwordHash.password = password

/-- `_validate_action_token`, for a token that was issued. -/
def validateActionToken (token : ActionToken) (purpose : AuthActionPurpose) (now : Time) : Bool :=
  token.credential = s.account.passwordHash && token.purpose = purpose && token.expiresAt > now

/-- `validate_token`, for the access token that the login of the session returned. -/
def validateToken (session : Nat) (now : Time) : Except AuthRequired Unit :=
  match s.sessions[session]? with
  | none => .error .invalidToken
  | some found =>
    if found.revokedAt.isSome then .error .revoked
    else if found.expiresAt ≤ now then .error .expired
    else if s.account.status ≠ .active then .error .revoked
    else .ok ()

def issueActionToken (purpose : AuthActionPurpose) (ttlSeconds : Int) : Service :=
  { s with tokens := s.tokens ++ [⟨purpose, s.account.passwordHash, s.now + seconds ttlSeconds⟩] }

/-- The first part of `login`. -/
def verify (password : String) (ttlSeconds : Int) : Service :=
  if s.account.status = .active && s.verifyPassword password then
    { s with logins := s.logins ++ [{ verified := s.account.passwordHash, ttlSeconds := ttlSeconds }] }
  else s

def createSession (i : Nat) (login : Login) : Service :=
  { s with
    sessions := s.sessions ++ [
      { issuedAt := s.now
        expiresAt := s.now + seconds login.ttlSeconds
        verified := login.verified }]
    logins := s.logins.set i { login with session := some s.sessions.length } }

/-- The first part of `reset_password_action`. -/
def validate (token : ActionToken) (password : String) : Service :=
  if s.validateActionToken token .passwordReset s.now && s.account.status = .active then
    { s with resets := s.resets ++ [
      { token := token
        password := password
        resetAt := s.now
        seen := s.salts }] }
  else s

def updatePassword (j : Nat) (reset : Reset) : Service :=
  { s with
    account := { s.account with passwordHash := ⟨reset.password, s.salts⟩ }
    salts := s.salts + 1
    resets := s.resets.set j { reset with progress := .updated s.salts } }

def revokeUserSessions (j : Nat) (reset : Reset) (installed : Nat) : Service :=
  { s with
    sessions := s.sessions.map fun session => session.revoke reset.resetAt
    resets := s.resets.set j { reset with progress := .completed installed } }

def revokeSession (session : Nat) : Service :=
  { s with sessions := s.sessions.modify session fun found => { found with revokedAt := some s.now } }

end Service

inductive Label where
  | issue (purpose : AuthActionPurpose) (ttlSeconds : Int)
  | login (password : String) (ttlSeconds : Int)
  | createSession (login : Nat)
  | reset (token : Nat) (password : String)
  | advance (reset : Nat)
  | logout (session : Nat)
  | setStatus (status : UserAccountStatus)
  | wait (duration : Nat)
deriving DecidableEq, Repr

namespace Service

def step (s : Service) : Label → Option Service
  | .issue purpose ttlSeconds => some (s.issueActionToken purpose ttlSeconds)
  | .login password ttlSeconds => some (s.verify password ttlSeconds)
  | .createSession i =>
    match s.logins[i]? with
    | none => none
    | some login => if login.session.isSome then none else some (s.createSession i login)
  | .reset token password => s.tokens[token]?.map fun found => s.validate found password
  | .advance j =>
    match s.resets[j]? with
    | none => none
    | some reset =>
      match reset.progress with
      | .validated => some (s.updatePassword j reset)
      | .updated installed => some (s.revokeUserSessions j reset installed)
      | .completed _ => none
  | .logout session => some (s.revokeSession session)
  | .setStatus status => some { s with account := { s.account with status := status } }
  | .wait duration => some { s with now := s.now + duration }

end Service

end Taroai.Auth
