import Mathlib.Data.List.Basic
import Taroai.Lib.Machine
import Taroai.Tenancy.Invitations

/-! What failed acceptances leave behind. The account and the role are there before the
acceptance is recorded, and recording it is the only step that can fail after them. -/

namespace Taroai.Tenancy

def Acceptance.Made (call : Acceptance) : Prop := call.createdUser = true ∨ call.assignedRole = true

namespace Organization

def Accepted (s : Organization) (invitationId : Nat) : Prop :=
  ∃ invitation, s.invitations[invitationId]? = some invitation ∧ invitation.acceptedAt.isSome = true

/-- No call that raised has made anything, and every call that returned is recorded on its
invitation. -/
structure Clean (s : Organization) : Prop where
  failed : ∀ call ∈ s.acceptances, call.progress = .raised → ¬call.Made
  recorded : ∀ call ∈ s.acceptances, ∀ invitationId userId,
    call.progress = .returned invitationId userId → s.Accepted invitationId

/-- What the calls would have to find: one that has made an account or an assignment and comes
to record the acceptance finds the invitation pending. -/
def FindsPending (s : Organization) : Label → Prop
  | .advance i _ => ∀ call, s.acceptances[i]? = some call → call.Made →
    ∀ invitationId userId, call.progress = .recording invitationId userId →
      s.writable call.request.tenantId invitationId = true
  | _ => True

structure Grows (s s' : Organization) : Prop where
  users : ∀ tenantId userId, (s.getUser tenantId userId).isSome = true →
    (s'.getUser tenantId userId).isSome = true
  roles : ∀ role ∈ s.roles, role ∈ s'.roles
  accepted : ∀ invitationId, s.Accepted invitationId → s'.Accepted invitationId

def Fits (s : Organization) (call : Acceptance) : Prop :=
  let tenantId := call.request.tenantId
  match call.progress with
  | .started | .found _ _ | .pending _ _ | .present _ _ => ¬call.Made
  | .verifying _ _ userId => ¬call.Made ∧ (s.getUser tenantId userId).isSome = true
  | .joined _ userId => (s.getUser tenantId userId).isSome = true
  | .entitled _ userId | .assigning _ userId =>
    (s.getUser tenantId userId).isSome = true ∧ (tenantId, tenantMemberRoleId) ∈ s.roles
  | .recording _ _ => True
  | .returned invitationId _ => s.Accepted invitationId
  | .raised => ¬call.Made

structure Inv (s : Organization) : Prop where
  fits : ∀ call ∈ s.acceptances, s.Fits call

section Steps

variable {s s' : Organization}

theorem Grows.refl (s : Organization) : s.Grows s := ⟨fun _ _ => id, fun _ => id, fun _ => id⟩

theorem Grows.calls (grows : s.Grows s') (calls : List Acceptance) :
    s.Grows { s' with acceptances := calls } :=
  ⟨grows.users, grows.roles, grows.accepted⟩

theorem Fits.grows {call : Acceptance} (fits : s.Fits call) (grows : s.Grows s') : s'.Fits call := by
  unfold Fits at fits ⊢
  dsimp only at fits ⊢
  split at fits
  · exact fits
  · exact fits
  · exact fits
  · exact fits
  · exact ⟨fits.1, grows.users _ _ fits.2⟩
  · exact grows.users _ _ fits
  · exact ⟨grows.users _ _ fits.1, grows.roles _ fits.2⟩
  · exact ⟨grows.users _ _ fits.1, grows.roles _ fits.2⟩
  · exact fits
  · exact grows.accepted _ fits
  · exact fits

theorem grows_putInvitation (invitationId : Nat)
    (f : TenantInvitationRecord → TenantInvitationRecord)
    (keeps : ∀ invitation, invitation.acceptedAt.isSome = true →
      (f invitation).acceptedAt.isSome = true) :
    s.Grows (s.putInvitation invitationId f) where
  users _ _ := id
  roles _ := id
  accepted i := by
    rintro ⟨invitation, found, accepted⟩
    unfold Accepted putInvitation
    dsimp only
    rw [List.getElem?_modify, found]
    by_cases here : invitationId = i
    · exact ⟨f invitation, by simp [here], keeps invitation accepted⟩
    · exact ⟨invitation, by simp [here], accepted⟩

theorem grows_ensureTenantMemberRole (tenantId : String) :
    s.Grows (s.ensureTenantMemberRole tenantId) ∧
      (tenantId, tenantMemberRoleId) ∈ (s.ensureTenantMemberRole tenantId).roles := by
  unfold ensureTenantMemberRole
  split
  · next there => exact ⟨Grows.refl s, there⟩
  · exact ⟨⟨fun _ _ => id, fun role => List.mem_append_left _, fun _ => id⟩, by simp⟩

theorem grows_users (account : UserAccount) : s.Grows { s with users := s.users ++ [account] } where
  users tenantId userId found := by
    unfold getUser at found ⊢
    dsimp only
    obtain ⟨there, present⟩ := Option.isSome_iff_exists.mp found
    obtain ⟨at_id, own⟩ := Option.filter_eq_some_iff.mp present
    rw [List.getElem?_append_left (List.getElem?_eq_some_iff.mp at_id).1, present]
    rfl
  roles _ := id
  accepted _ := id

/-- What a step of a call comes to: the services grow and the call is as it should be after it,
or it has raised after making something, as it found no pending invitation to be recorded on. -/
structure Outcome (s : Organization) (call : Acceptance) (after : Organization)
    (next : Acceptance) : Prop where
  grows : s.Grows after
  acceptances : after.acceptances = s.acceptances
  result : after.Fits next ∧ (call.Made → ∀ invitationId userId,
      call.progress = .recording invitationId userId →
        s.writable call.request.tenantId invitationId = true) ∨
    next.progress = .raised ∧ next.Made ∧ call.Made ∧ ∃ invitationId userId,
      call.progress = .recording invitationId userId ∧
        s.writable call.request.tenantId invitationId = false

theorem outcome_of_fits {call next : Acceptance} {after : Organization} (grows : s.Grows after)
    (acceptances : after.acceptances = s.acceptances) (fits : after.Fits next)
    (elsewhere : ∀ invitationId userId, call.progress ≠ .recording invitationId userId) :
    s.Outcome call after next :=
  ⟨grows, acceptances, .inl ⟨fits, fun _ invitationId userId here =>
    absurd here (elsewhere invitationId userId)⟩⟩

theorem outcome_of_unchanged {call next : Acceptance} (fits : s.Fits next)
    (elsewhere : ∀ invitationId userId, call.progress ≠ .recording invitationId userId) :
    s.Outcome call s next :=
  outcome_of_fits (Grows.refl s) rfl fits elsewhere

theorem outcome_of_recording (call : Acceptance) (invitationId userId : Nat)
    (here : call.progress = .recording invitationId userId) (hashes : Hashes) (salt : String) :
    s.Outcome call (s.acceptStep hashes salt call).1 (s.acceptStep hashes salt call).2 := by
  obtain ⟨request, progress, createdUser, assignedRole⟩ := call
  cases here
  unfold acceptStep acceptTenantInvitation
  dsimp only
  cases pending : s.writable request.tenantId invitationId with
  | true =>
    obtain ⟨invitation, found, -⟩ := (Option.any_eq_true _ _).mp pending
    rw [if_pos rfl]
    refine ⟨grows_putInvitation _ _ fun _ _ => rfl, rfl, .inl ⟨?_, fun _ i u same => ?_⟩⟩
    · refine ⟨{ invitation with acceptedAt := some s.now, acceptedByUserId := some userId }, ?_, rfl⟩
      dsimp only [putInvitation]
      rw [List.getElem?_modify, found]
      simp
    · cases same
      exact pending
  | false =>
    by_cases made : createdUser = true ∨ assignedRole = true
    · exact ⟨Grows.refl s, rfl, .inr ⟨rfl, made, made, invitationId, userId, rfl, pending⟩⟩
    · exact ⟨Grows.refl s, rfl, .inl ⟨made, fun there => absurd there made⟩⟩

theorem acceptStep_outcome (hashes : Hashes) (salt : String) (call : Acceptance)
    (fits : s.Fits call) :
    s.Outcome call (s.acceptStep hashes salt call).1 (s.acceptStep hashes salt call).2 := by
  obtain ⟨request, progress, createdUser, assignedRole⟩ := call
  cases progress with
  | started =>
    unfold acceptStep
    dsimp only
    split
    · exact outcome_of_unchanged fits fun _ _ => nofun
    · split
      · exact outcome_of_unchanged fits fun _ _ => nofun
      · exact outcome_of_unchanged fits fun _ _ => nofun
  | found invitationId invitation =>
    unfold acceptStep
    dsimp only
    split
    · exact outcome_of_unchanged fits fun _ _ => nofun
    · exact outcome_of_unchanged fits fun _ _ => nofun
  | pending invitationId invitation =>
    unfold acceptStep
    dsimp only
    split
    · exact outcome_of_unchanged fits fun _ _ => nofun
    · refine outcome_of_fits (grows_users _) rfl ?_ fun _ _ => nofun
      unfold Fits getUser
      dsimp only
      rw [List.getElem?_concat_length]
      simp
  | present invitationId invitation =>
    unfold acceptStep
    dsimp only
    split
    · exact outcome_of_unchanged fits fun _ _ => nofun
    · next userId found =>
      split
      · next active =>
        obtain ⟨account, there, -⟩ := (Option.any_eq_true _ _).mp active
        exact outcome_of_unchanged ⟨fits, Option.isSome_iff_exists.mpr ⟨account, there⟩⟩
          fun _ _ => nofun
      · exact outcome_of_unchanged fits fun _ _ => nofun
  | verifying invitationId invitation userId =>
    unfold acceptStep
    dsimp only
    split
    · exact outcome_of_unchanged fits.2 fun _ _ => nofun
    · exact outcome_of_unchanged fits.1 fun _ _ => nofun
  | joined invitationId userId =>
    obtain ⟨grows, there⟩ := grows_ensureTenantMemberRole (s := s) request.tenantId
    refine outcome_of_fits grows ?_ ⟨grows.users _ _ fits, there⟩ fun _ _ => nofun
    unfold acceptStep ensureTenantMemberRole
    dsimp only
    split <;> rfl
  | entitled invitationId userId =>
    have known : (s.getUser request.tenantId userId).isNone = false := by
      rw [Option.isNone_eq_false_iff]
      exact fits.1
    unfold acceptStep
    dsimp only
    rw [known, if_neg Bool.false_ne_true]
    split
    · exact outcome_of_unchanged trivial fun _ _ => nofun
    · exact outcome_of_unchanged fits fun _ _ => nofun
  | assigning invitationId userId =>
    have known : (s.getUser request.tenantId userId).isNone = false := by
      rw [Option.isNone_eq_false_iff]
      exact fits.1
    unfold acceptStep
    dsimp only
    rw [if_neg (by rw [known]; exact not_or.mpr ⟨Bool.false_ne_true, not_not.mpr fits.2⟩)]
    exact outcome_of_fits ⟨fun _ _ => id, fun _ => id, fun _ => id⟩ rfl trivial fun _ _ => nofun
  | recording invitationId userId => exact outcome_of_recording _ invitationId userId rfl _ _
  | returned invitationId userId => exact outcome_of_unchanged fits fun _ _ => nofun
  | raised => exact outcome_of_unchanged fits fun _ _ => nofun

theorem Inv.grows (inv : s.Inv) (grows : s.Grows s') (same : s'.acceptances = s.acceptances) :
    s'.Inv where
  fits call member := (inv.fits call (same ▸ member)).grows grows

theorem Inv.clean (inv : s.Inv) : s.Clean where
  failed call member here := by
    have fits := inv.fits call member
    unfold Fits at fits
    rw [here] at fits
    exact fits
  recorded call member invitationId userId here := by
    have fits := inv.fits call member
    unfold Fits at fits
    rw [here] at fits
    exact fits

theorem revoke_grows (tenantId : String) (invitationId : Nat) :
    s.Grows (s.revokeTenantInvitation tenantId invitationId) ∧
      (s.revokeTenantInvitation tenantId invitationId).acceptances = s.acceptances := by
  unfold revokeTenantInvitation
  split
  · exact ⟨grows_putInvitation _ _ fun _ => id, rfl⟩
  · exact ⟨Grows.refl s, rfl⟩

/-- A step keeps the invariant where it meets the condition and leaves something behind where
it does not. -/
theorem step_cases (hashes : Hashes) (label : Label) (inv : s.Inv)
    (moved : s.step hashes label = some s') :
    s'.Inv ∧ s.FindsPending label ∨ ¬s'.Clean ∧ ¬s.FindsPending label := by
  cases label with
  | accept request =>
    cases moved
    refine .inl ⟨⟨fun call member => ?_⟩, trivial⟩
    obtain before | new := List.mem_append.mp member
    · exact inv.fits call before
    · rw [List.mem_singleton.mp new]
      exact fun made => made.elim nofun nofun
  | advance i salt =>
    dsimp only [step] at moved
    cases at_i : s.acceptances[i]? with
    | none =>
      rw [at_i] at moved
      cases moved
    | some call =>
      rw [at_i] at moved
      cases moved
      obtain ⟨grows, same, result⟩ :=
        acceptStep_outcome hashes salt call (inv.fits call (List.mem_of_getElem? at_i))
      obtain ⟨fits, pending⟩ | ⟨raised, made', made, invitationId, userId, here, lost⟩ := result
      · refine .inl ⟨⟨fun other member => ?_⟩, fun other there => ?_⟩
        · obtain before | new := List.mem_or_eq_of_mem_set member
          · exact (inv.fits other (same ▸ before)).grows (grows.calls _)
          · rw [new]
            exact fits
        · rw [at_i] at there
          cases there
          exact pending
      · refine .inr ⟨fun clean => ?_, fun pending => ?_⟩
        · refine clean.failed _ (List.mem_set ?_ _) raised made'
          rw [same]
          exact (List.getElem?_eq_some_iff.mp at_i).1
        · rw [pending call at_i made invitationId userId here] at lost
          cases lost
  | revoke tenantId invitationId =>
    cases moved
    obtain ⟨grows, same⟩ := revoke_grows (s := s) tenantId invitationId
    exact .inl ⟨inv.grows grows same, trivial⟩
  | wait duration =>
    cases moved
    refine .inl ⟨?_, trivial⟩
    exact inv.grows ⟨fun _ _ => id, fun _ => id, fun _ => id⟩ rfl

end Steps

/-- Along every run from a state in which no acceptance is under way, what is left by the calls
that failed is nothing, if and only if each call that has made an account or an assignment
finds its invitation pending when it records the acceptance. -/
theorem failed_acceptance_makes_no_member (hashes : Hashes) (s : Organization)
    (idle : s.acceptances = []) (labels : List Label) :
    Machine.Along (step hashes) (fun _ _ after => after.Clean) s labels ↔
      Machine.Conforms (step hashes) FindsPending s labels := by
  refine Machine.along_congr_of_invariant (I := Inv) (fun s label s' inv moved => ?_)
    (fun s label s' inv moved clean => ?_) ⟨fun call member => ?_⟩
  · obtain ⟨inv', pending⟩ | ⟨left, lost⟩ := step_cases hashes label inv moved
    · exact iff_of_true inv'.clean pending
    · exact iff_of_false left lost
  · obtain ⟨inv', -⟩ | ⟨left, -⟩ := step_cases hashes label inv moved
    · exact inv'
    · exact absurd clean left
  · rw [idle] at member
    cases member

section Revoked

def plain : Hashes where
  tokenHash _ token := token
  hashPassword password _ := password
  verifyPassword password passwordHash := password = passwordHash

def invited : Organization where
  now := 0
  invitations := [{ tenantId := "tenant", email := "a@b.c", tokenHash := "token", expiresAt := 100 }]
  users := []
  roles := []
  assignments := []
  acceptances := []

def steps (n : Nat) : List Label := List.replicate n (.advance 0 "")

def accepting : Label := .accept ⟨"tenant", "token", "password"⟩

/-- Nothing is left behind by an acceptance that is not interrupted. -/
theorem uninterrupted_acceptance :
    Machine.Along (step plain) (fun _ _ after => after.Clean) invited (accepting :: steps 7) ↔
      Machine.Conforms (step plain) FindsPending invited (accepting :: steps 7) :=
  failed_acceptance_makes_no_member plain invited rfl _

/-- The invitation is revoked after the account was made: the call raises and the account and
its role stay. -/
theorem revoked_after_the_account :
    (Machine.run (step plain) invited
        (accepting :: steps 3 ++ .revoke "tenant" 0 :: steps 4)).map
      (fun s => (s.users.map UserAccount.email, s.assignments, s.acceptances.map Acceptance.progress,
        s.invitations.map fun invitation => invitation.status s.now)) =
    some (["a@b.c"], [⟨"tenant", 0, "tenant_member"⟩], [.raised], [.revoked]) ∧
      invited.users = [] ∧ invited.assignments = [] := by
  decide

end Revoked

end Organization

end Taroai.Tenancy
