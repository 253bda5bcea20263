import Mathlib.Data.List.Basic
import Taroai.Auth.PasswordReset
import Taroai.Lib.Machine

/-! What a completed reset cuts off. Later password hashes have later salts, so a session is
from an earlier password when the salt it was verified with is below the one installed. -/

namespace Taroai.Auth

namespace Service

/-- Once a reset has completed, sessions of earlier passwords are refused, so are action tokens
issued before it, and its token has completed no other reset. -/
structure CutOff (s : Service) : Prop where
  sessions : ∀ reset ∈ s.resets, ∀ installed, reset.progress = .completed installed →
    ∀ (i : Nat) session, s.sessions[i]? = some session → session.verified.salt < installed →
      ∀ now, s.validateToken i now ≠ .ok ()
  tokens : ∀ reset ∈ s.resets, ∀ installed, reset.progress = .completed installed →
    ∀ token : ActionToken, token.credential.salt < installed → ∀ purpose now,
      s.validateActionToken token purpose now = false
  once : ∀ (j j' : Nat) (reset reset' : Reset) installed installed', s.resets[j]? = some reset →
    s.resets[j']? = some reset' → reset.progress = .completed installed →
    reset'.progress = .completed installed' → reset.token = reset'.token → j = j'

/-- What the steps would have to look at: a session is created only if no reset that changed the
password after the login verified it has completed, and a reset changes the password only if no
other one with its token has done so since the token was validated. -/
def Meets (s : Service) : Label → Prop
  | .createSession i => ∀ login, s.logins[i]? = some login → ∀ reset ∈ s.resets,
    ∀ installed, reset.progress = .completed installed → installed ≤ login.verified.salt
  | .advance j => ∀ reset, s.resets[j]? = some reset → reset.progress = .validated →
    ∀ j' other, j' ≠ j → s.resets[j']? = some other → other.token = reset.token →
      ∀ installed, other.installed = some installed → installed < reset.seen
  | _ => True

/-- A reset was validated against the hash that was in place after `seen` salts, and has put in
place a later one. -/
structure Ordered (salts : Nat) (reset : Reset) : Prop where
  token : reset.token.credential.salt + 1 = reset.seen
  seen : reset.seen ≤ salts
  installed : ∀ installed, reset.installed = some installed →
    reset.seen ≤ installed ∧ installed < salts

structure Inv (s : Service) : Prop where
  current : s.account.passwordHash.salt + 1 = s.salts
  ordered : ∀ reset ∈ s.resets, Ordered s.salts reset
  revoked : ∀ reset ∈ s.resets, ∀ installed, reset.progress = .completed installed →
    ∀ session ∈ s.sessions, session.verified.salt < installed → session.revokedAt.isSome = true
  once : ∀ (j j' : Nat) (reset reset' : Reset), s.resets[j]? = some reset → s.resets[j']? = some reset' →
    reset.installed.isSome = true → reset'.installed.isSome = true →
    reset.token = reset'.token → j = j'

section Steps

variable {s s' : Service}

theorem installed_of_completed {reset : Reset} {installed : Nat}
    (completed : reset.progress = .completed installed) : reset.installed = some installed := by
  unfold Reset.installed
  rw [completed]

theorem Inv.cutOff (inv : s.Inv) : s.CutOff where
  sessions reset member installed completed i session found earlier now accepted := by
    have revoked := inv.revoked reset member installed completed session
      (List.mem_of_getElem? found) earlier
    unfold validateToken at accepted
    rw [found] at accepted
    dsimp only at accepted
    rw [if_pos revoked] at accepted
    cases accepted
  tokens reset member installed completed token earlier purpose now := by
    have later := ((inv.ordered reset member).installed installed
      (installed_of_completed completed)).2
    have differs : token.credential ≠ s.account.passwordHash := fun same => by
      have current := inv.current
      rw [same] at earlier
      omega
    unfold validateActionToken
    simp [differs]
  once j j' reset reset' installed installed' found found' completed completed' same := by
    refine inv.once j j' reset reset' found found' ?_ ?_ same
    · rw [installed_of_completed completed]
      rfl
    · rw [installed_of_completed completed']
      rfl

theorem revoke_isSome {session : AuthSession} (revokedAt : Time) :
    (session.revoke revokedAt).revokedAt.isSome = true := by
  unfold AuthSession.revoke
  split
  · rfl
  · next kept => exact Option.isSome_iff_ne_none.mpr (by simpa using kept)

/-- Nothing but sessions, logins, tokens, the clock and the status changes, and no session of an
earlier password becomes valid. -/
theorem Inv.same (inv : s.Inv) (hash : s'.account.passwordHash = s.account.passwordHash)
    (salts : s'.salts = s.salts) (resets : s'.resets = s.resets)
    (sessions : ∀ session ∈ s'.sessions, (∃ before ∈ s.sessions, session.verified = before.verified ∧
        (before.revokedAt.isSome = true → session.revokedAt.isSome = true)) ∨
      ∀ reset ∈ s.resets, ∀ installed, reset.progress = .completed installed →
        installed ≤ session.verified.salt) : s'.Inv where
  current := by rw [hash, salts, inv.current]
  ordered := by
    rw [resets, salts]
    exact inv.ordered
  revoked := by
    rw [resets]
    intro reset member installed completed session listed earlier
    obtain ⟨before, there, same, kept⟩ | later := sessions session listed
    · rw [same] at earlier
      exact kept (inv.revoked reset member installed completed before there earlier)
    · exact absurd earlier (Nat.not_lt.mpr (later reset member installed completed))
  once := by
    rw [resets]
    exact inv.once

theorem validate_inv (inv : s.Inv) (token : ActionToken) (password : String) :
    (s.validate token password).Inv := by
  unfold validate
  split
  · next valid =>
    unfold validateActionToken at valid
    simp only [Bool.and_eq_true, decide_eq_true_eq] at valid
    have credential := valid.1.1.1
    refine ⟨inv.current, fun reset member => ?_, fun reset member installed completed => ?_,
      fun j j' reset reset' found found' done done' same => ?_⟩
    · obtain before | new := List.mem_append.mp member
      · exact inv.ordered reset before
      · rw [List.mem_singleton.mp new]
        refine ⟨?_, Nat.le_refl _, fun installed none => by cases none⟩
        dsimp only
        rw [credential]
        exact inv.current
    · obtain before | new := List.mem_append.mp member
      · exact inv.revoked reset before installed completed
      · rw [List.mem_singleton.mp new] at completed
        cases completed
    · have old {k : Nat} {r : Reset} (at_k : (s.resets ++ [(⟨token, password, s.now, s.salts,
          .validated⟩ : Reset)])[k]? = some r) (done : r.installed.isSome = true) :
          s.resets[k]? = some r := by
        rw [List.getElem?_append] at at_k
        split at at_k
        · exact at_k
        · obtain new := List.mem_singleton.mp (List.mem_of_getElem? at_k)
          rw [new] at done
          cases done
      exact inv.once j j' reset reset' (old found done) (old found' done') done done' same
  · exact inv

theorem updatePassword_inv (inv : s.Inv) {j : Nat} {reset : Reset}
    (found : s.resets[j]? = some reset) (validated : reset.progress = .validated)
    (meets : s.Meets (.advance j)) : (s.updatePassword j reset).Inv := by
  have ordered := inv.ordered reset (List.mem_of_getElem? found)
  -- the reset that takes the step is the only one with its token that has come this far
  have first : ∀ i other, i ≠ j → s.resets[i]? = some other → other.installed.isSome = true →
      other.token ≠ reset.token := by
    intro i other apart there done same
    obtain ⟨installed, some⟩ := Option.isSome_iff_exists.mp done
    have before := meets reset found validated i other apart there same installed some
    have theirs := inv.ordered other (List.mem_of_getElem? there)
    have after := (theirs.installed installed some).1
    have token := theirs.token
    rw [same] at token
    have own := ordered.token
    omega
  refine ⟨rfl, fun other member => ?_, fun other member installed completed => ?_,
    fun i i' other other' at_i at_i' done done' same => ?_⟩
  · obtain before | new := List.mem_or_eq_of_mem_set member
    · obtain ⟨token, seen, installed⟩ := inv.ordered other before
      exact ⟨token, Nat.le_succ_of_le seen, fun k some =>
        ⟨(installed k some).1, Nat.lt_succ_of_lt (installed k some).2⟩⟩
    · rw [new]
      refine ⟨ordered.token, Nat.le_succ_of_le ordered.seen, fun k some => ?_⟩
      cases some
      exact ⟨ordered.seen, Nat.lt_succ_self _⟩
  · obtain before | new := List.mem_or_eq_of_mem_set member
    · exact inv.revoked other before installed completed
    · rw [new] at completed
      cases completed
  · dsimp only [updatePassword] at at_i at_i'
    rw [List.getElem?_set] at at_i at_i'
    by_cases here : j = i
    · by_cases here' : j = i'
      · rw [← here, ← here']
      · rw [if_neg here'] at at_i'
        rw [if_pos here] at at_i
        split at at_i
        · cases at_i
          exact absurd same.symm (first i' other' (Ne.symm here') at_i' done')
        · cases at_i
    · rw [if_neg here] at at_i
      by_cases here' : j = i'
      · rw [if_pos here'] at at_i'
        split at at_i'
        · cases at_i'
          exact absurd same (first i other (Ne.symm here) at_i done)
        · cases at_i'
      · rw [if_neg here'] at at_i'
        exact inv.once i i' other other' at_i at_i' done done' same

theorem revokeUserSessions_inv (inv : s.Inv) {j : Nat} {reset : Reset} {installed : Nat}
    (found : s.resets[j]? = some reset) (updated : reset.progress = .updated installed) :
    (s.revokeUserSessions j reset installed).Inv := by
  have done : reset.installed = some installed := by
    unfold Reset.installed
    rw [updated]
  have ordered := inv.ordered reset (List.mem_of_getElem? found)
  -- the set changes no token and no installed salt
  have old {k : Nat} {r : Reset}
      (at_k : (s.resets.set j { reset with progress := .completed installed })[k]? = some r) :
      ∃ before, s.resets[k]? = some before ∧ before.token = r.token ∧
        before.installed = r.installed := by
    rw [List.getElem?_set] at at_k
    split at at_k
    · next here =>
      split at at_k
      · cases at_k
        exact ⟨reset, here ▸ found, rfl, done⟩
      · cases at_k
    · exact ⟨r, at_k, rfl, rfl⟩
  refine ⟨inv.current, fun other member => ?_, fun other member k completed session listed _ => ?_,
    fun i i' other other' at_i at_i' one one' same => ?_⟩
  · obtain before | new := List.mem_or_eq_of_mem_set member
    · exact inv.ordered other before
    · rw [new]
      refine ⟨ordered.token, ordered.seen, fun k some => ?_⟩
      cases some
      exact ordered.installed installed done
  · obtain ⟨before, -, same⟩ := List.mem_map.mp listed
    rw [← same]
    exact revoke_isSome _
  · obtain ⟨before, there, token, installed⟩ := old at_i
    obtain ⟨before', there', token', installed'⟩ := old at_i'
    refine inv.once i i' before before' there there' ?_ ?_ ?_
    · rw [installed]
      exact one
    · rw [installed']
      exact one'
    · rw [token, token', same]

theorem step_inv (inv : s.Inv) (label : Label) (meets : s.Meets label)
    (moved : s.step label = some s') : s'.Inv := by
  cases label with
  | issue purpose ttlSeconds =>
    cases moved
    exact inv.same rfl rfl rfl fun session listed => .inl ⟨session, listed, rfl, id⟩
  | login password ttlSeconds =>
    cases moved
    unfold verify
    split
    · exact inv.same rfl rfl rfl fun session listed => .inl ⟨session, listed, rfl, id⟩
    · exact inv
  | createSession i =>
    dsimp only [step] at moved
    split at moved
    · cases moved
    · next login found =>
      split at moved
      · cases moved
      · cases moved
        refine inv.same rfl rfl rfl fun session listed => ?_
        obtain before | new := List.mem_append.mp listed
        · exact .inl ⟨session, before, rfl, id⟩
        · rw [List.mem_singleton.mp new]
          exact .inr (meets login found)
  | reset token password =>
    obtain ⟨found, -, same⟩ := Option.map_eq_some_iff.mp moved
    rw [← same]
    exact validate_inv inv found password
  | advance j =>
    dsimp only [step] at moved
    split at moved
    · cases moved
    · next reset found =>
      split at moved
      · next validated =>
        cases moved
        exact updatePassword_inv inv found validated meets
      · next installed updated =>
        cases moved
        exact revokeUserSessions_inv inv found updated
      · cases moved
  | logout session =>
    cases moved
    refine inv.same rfl rfl rfl fun after listed => .inl ?_
    obtain ⟨i, at_i⟩ := List.mem_iff_getElem?.mp listed
    dsimp only [revokeSession] at at_i
    rw [List.getElem?_modify] at at_i
    obtain ⟨before, there, same⟩ := Option.map_eq_some_iff.mp at_i
    refine ⟨before, List.mem_of_getElem? there, ?_⟩
    rw [← same]
    split
    · exact ⟨rfl, fun _ => rfl⟩
    · exact ⟨rfl, id⟩
  | setStatus status =>
    cases moved
    exact inv.same rfl rfl rfl fun session listed => .inl ⟨session, listed, rfl, id⟩
  | wait duration =>
    cases moved
    exact inv.same rfl rfl rfl fun session listed => .inl ⟨session, listed, rfl, id⟩

end Steps

structure Idle (s : Service) : Prop where
  current : s.account.passwordHash.salt + 1 = s.salts
  resets : s.resets = []

theorem Idle.inv {s : Service} (idle : s.Idle) : s.Inv where
  current := idle.current
  ordered reset member := by
    rw [idle.resets] at member
    cases member
  revoked reset member := by
    rw [idle.resets] at member
    cases member
  once j j' reset reset' found := by
    rw [idle.resets] at found
    cases found

/-- Along every run of logins and resets whose steps meet the condition, completed resets cut
off earlier passwords and their tokens. -/
theorem reset_cuts_off (s : Service) (idle : s.Idle) (labels : List Label)
    (meets : Machine.Conforms step Meets s labels) :
    Machine.Along step (fun _ _ after => after.CutOff) s labels :=
  Machine.Along.of_invariant
    (fun _ label _ inv here moved =>
      have after := step_inv inv label here moved
      ⟨after, after.cutOff⟩) idle.inv meets

section Late

def registered : Service where
  now := 0
  account := ⟨⟨"old", 0⟩, .active⟩
  salts := 1
  tokens := [⟨.passwordReset, ⟨"old", 0⟩, 1000⟩]
  sessions := []
  logins := []
  resets := []

def resetAfterLogin : List Label :=
  [.login "old" 3600, .createSession 0, .reset 0 "new", .advance 0, .advance 0]

theorem reset_after_login_cuts_off :
    Machine.Along step (fun _ _ after => after.CutOff) registered resetAfterLogin := by
  refine reset_cuts_off registered ⟨rfl, rfl⟩ _ ?_
  refine fun s moved => ⟨trivial, ?_⟩
  cases moved
  refine fun s moved => ⟨fun login found reset member => (by cases member), ?_⟩
  cases moved
  refine fun s moved => ⟨trivial, ?_⟩
  cases moved
  have alone : ∀ (j : Nat) (reset other : Reset), j ≠ 0 → [reset][j]? = some other → False := by
    intro j reset other apart there
    cases j with
    | zero => exact apart rfl
    | succ j => cases there
  refine fun s moved => ⟨fun _ _ _ j other apart there => (alone j _ other apart there).elim, ?_⟩
  cases moved
  exact fun s moved => ⟨fun _ _ _ j other apart there => (alone j _ other apart there).elim, trivial⟩

/-- The old password is verified before the reset and its session is created after it. -/
def loginAcrossReset : List Label :=
  [.login "old" 3600, .reset 0 "new", .advance 0, .advance 0, .createSession 0]

def tokenTwice : List Label :=
  [.reset 0 "new", .reset 0 "newer", .advance 0, .advance 0, .advance 1, .advance 1]

theorem old_password_outlives_reset :
    (∃ s, Machine.run step registered loginAcrossReset = some s ∧ ¬s.CutOff) ∧
      ∃ s, Machine.run step registered tokenTwice = some s ∧ ¬s.CutOff := by
  refine ⟨⟨_, rfl, fun cut => ?_⟩, ⟨_, rfl, fun cut => ?_⟩⟩
  · exact cut.sessions _ (List.mem_singleton.mpr rfl) 1 rfl 0 _ rfl (by decide) 0 rfl
  · have same := cut.once 0 1 _ _ 1 2 rfl rfl rfl rfl rfl
    cases same

end Late

end Service

end Taroai.Auth
