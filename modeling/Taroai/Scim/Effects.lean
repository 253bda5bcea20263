import Taroai.Scim.Provisioning

/-! What an import does to the links, the statuses and the roles: first for one user, then for the
users of an import one after another. -/

namespace Taroai.Scim

open Tenancy Raising

theorem tenantItemKey_inj {tenantId providerId x y : String} :
    tenantItemKey tenantId providerId x = tenantItemKey tenantId providerId y ↔ x = y := by
  simp [tenantItemKey]

section Views

variable (tenantId providerId : String)

def Provisioning.linkedTo (s : Provisioning) (externalId : String) : Option Nat :=
  (s.store.findUserLink tenantId providerId externalId).map ScimUserLink.userId

/-- The status of an account. One that has not been made yet counts as active. -/
def Provisioning.status (s : Provisioning) (account : Nat) : UserAccountStatus :=
  (s.identity.users[account]?.map UserAccount.status).getD .active

def Provisioning.Holds (s : Provisioning) (account : Nat) (role : String) : Prop :=
  role ∈ s.identity.roleIdsOf tenantId account

def Provisioning.Present (s : Provisioning) (account : Nat) : Prop :=
  ∃ found, s.identity.getUser tenantId account = .ok found

end Views

/-- Whether the users of an import say of an external id that it is active, in their order. -/
def flags (users : List ScimUserResource) (externalId : String) : List Bool :=
  (users.filter fun user => user.externalId = externalId).map ScimUserResource.active

@[simp] theorem flags_nil (x : String) : flags [] x = [] := rfl

theorem flags_cons (user : ScimUserResource) (rest : List ScimUserResource) (x : String) :
    flags (user :: rest) x =
      if user.externalId = x then user.active :: flags rest x else flags rest x := by
  unfold flags
  rw [List.filter_cons]
  by_cases same : user.externalId = x <;> simp [same]

theorem mem_flags {users : List ScimUserResource} {x : String} {active : Bool} :
    active ∈ flags users x ↔ ∃ user ∈ users, user.externalId = x ∧ user.active = active := by
  simp [flags, and_assoc]

/-- An external id is listed as inactive when it is linked: it was before, or an active user of
the same import has come before. -/
def Deactivated (linked : Prop) (said : List Bool) : Prop :=
  linked ∧ false ∈ said ∨ [true, false].Sublist said

theorem deactivated_cons {linked : Prop} {active : Bool} {said : List Bool} :
    Deactivated linked (active :: said) ↔
      active = false ∧ linked ∨ Deactivated (linked ∨ active = true) said := by
  unfold Deactivated
  rw [List.cons_sublist_cons', List.singleton_sublist]
  cases active <;> simp <;> tauto

section Accounts

namespace InMemoryIdentityService

variable {identity : InMemoryIdentityService} {tenantId : String}

theorem getUser_eq_ok {userId : Nat} {account : UserAccount} :
    identity.getUser tenantId userId = .ok account ↔
      identity.users[userId]? = some account ∧ account.tenantId = tenantId := by
  unfold getUser
  cases identity.users[userId]? with
  | none => simp
  | some found =>
    by_cases ours : found.tenantId = tenantId
    · simp only [ours, if_true, Except.ok.injEq, Option.some.injEq]
      constructor
      · rintro rfl
        exact ⟨rfl, ours⟩
      · exact And.left
    · simp only [ours, if_false, reduceCtorEq, Option.some.injEq, false_iff]
      rintro ⟨rfl, same⟩
      exact ours same

theorem setUserStatus_eq_ok {userId : Nat} {status : UserAccountStatus}
    {changed : InMemoryIdentityService}
    (done : identity.setUserStatus tenantId userId status = .ok changed) :
    ∃ account, identity.getUser tenantId userId = .ok account ∧
      changed = { identity with
        users := identity.users.set userId { account with status := status } } := by
  unfold setUserStatus at done
  cases found : identity.getUser tenantId userId with
  | error raised =>
    rw [found] at done
    cases done
  | ok account =>
    rw [found] at done
    cases done
    exact ⟨account, rfl, rfl⟩

theorem createUser_eq_ok {email passwordHash : String} {changed : InMemoryIdentityService}
    (done : identity.createUser tenantId email passwordHash = .ok changed) :
    changed = { identity with users := identity.users ++
      [{ tenantId := tenantId, email := email, passwordHash := passwordHash }] } := by
  unfold createUser at done
  split at done
  · cases done
  · cases done
    rfl

theorem assignRole_eq_ok {userId : Nat} {roleId : String} {changed : InMemoryIdentityService}
    (done : identity.assignRole tenantId userId roleId = .ok changed) :
    changed = { identity with
      assignments := identity.assignments ++ [⟨tenantId, userId, roleId⟩] } := by
  unfold assignRole at done
  cases found : identity.getUser tenantId userId with
  | error raised =>
    rw [found] at done
    cases done
  | ok account =>
    rw [found] at done
    change (if _ then _ else _) = _ at done
    split at done
    · cases done
      rfl
    · cases done

theorem getUserByEmail_eq_ok {email : String} {userId : Nat}
    (done : identity.getUserByEmail tenantId email = .ok userId) :
    ∃ account, identity.getUser tenantId userId = .ok account := by
  unfold getUserByEmail at done
  split at done
  · cases done
  · next found _ =>
    cases there : identity.getUser tenantId found with
    | error raised =>
      rw [there] at done
      cases done
    | ok account =>
      rw [there] at done
      cases done
      exact ⟨account, there⟩

end InMemoryIdentityService

end Accounts

theorem onIdentity_cases {change : InMemoryIdentityService → Except ScimError InMemoryIdentityService}
    {s t : Provisioning} {r : Except ScimError Unit} (ran : onIdentity change s = (r, t)) :
    (∃ raised, r = .error raised ∧ t = s) ∨
      ∃ identity, change s.identity = .ok identity ∧ r = .ok () ∧
        t = { s with identity := identity } := by
  unfold onIdentity at ran
  cases done : change s.identity with
  | error raised =>
    rw [done] at ran
    cases ran
    exact .inl ⟨raised, rfl, rfl⟩
  | ok identity =>
    rw [done] at ran
    cases ran
    exact .inr ⟨identity, rfl, rfl, rfl⟩

section Users

variable {lower : String → String} {tenantId providerId : String}

/-- The roles assigned are of those asked for; where nothing is raised, none of these is left. -/
theorem assignMissing_cases {userId : Nat} {existing roleIds : List String} {s t : Provisioning}
    {r : Except ScimError Nat} (ran : assignMissing tenantId userId existing roleIds s = (r, t)) :
    ∃ added : List String,
      t = { s with identity := { s.identity with
        assignments := s.identity.assignments ++ added.map (⟨tenantId, userId, ·⟩) } } ∧
      added ⊆ roleIds ∧ ∀ n, r = .ok n → ∀ role ∈ roleIds, role ∈ existing ∨ role ∈ added := by
  induction roleIds generalizing existing s r with
  | nil =>
    cases ran
    exact ⟨[], by simp, List.Subset.refl _, fun _ _ _ member => nomatch member⟩
  | cons roleId rest ih =>
    rw [assignMissing] at ran
    by_cases held : roleId ∈ existing
    · rw [if_pos held] at ran
      obtain ⟨added, after, asked, whole⟩ := ih ran
      refine ⟨added, after, List.subset_cons_of_subset _ asked, fun n done role member => ?_⟩
      obtain rfl | later := List.mem_cons.mp member
      · exact .inl held
      · exact whole n done role later
    · rw [if_neg held] at ran
      obtain ⟨raised, first, rfl⟩ | ⟨_, s₁, first, ran⟩ := bind_cases ran
      · obtain ⟨-, -, rfl⟩ | ⟨_, _, ok, -⟩ := onIdentity_cases first
        · exact ⟨[], by simp, List.nil_subset _, fun _ done => nomatch done⟩
        · cases ok
      · obtain ⟨_, failed, -⟩ | ⟨identity, done, -, rfl⟩ := onIdentity_cases first
        · cases failed
        · obtain rfl := InMemoryIdentityService.assignRole_eq_ok done
          have goes : ∃ r', assignMissing tenantId userId (roleId :: existing) rest
              { s with identity := { s.identity with
                assignments := s.identity.assignments ++ [⟨tenantId, userId, roleId⟩] } } =
              (r', t) ∧ ∀ n, r = .ok n → ∃ m, r' = .ok m := by
            obtain ⟨raised, inner, rfl⟩ | ⟨m, s₂, inner, ends⟩ := bind_cases ran
            · exact ⟨_, inner, fun _ done => nomatch done⟩
            · cases ends
              exact ⟨_, inner, fun _ _ => ⟨m, rfl⟩⟩
          obtain ⟨r', inner, returns⟩ := goes
          obtain ⟨added, after, asked, whole⟩ := ih inner
          refine ⟨roleId :: added, ?_, List.cons_subset_cons _ asked, fun n done role member => ?_⟩
          · rw [after]
            simp
          · obtain ⟨m, returned⟩ := returns n done
            obtain rfl | later := List.mem_cons.mp member
            · exact .inr List.mem_cons_self
            · obtain held | there := whole m returned role later
              · obtain rfl | held := List.mem_cons.mp held
                · exact .inr List.mem_cons_self
                · exact .inl held
              · exact .inr (List.mem_cons_of_mem _ there)

theorem assignRoles_cases {userId : Nat} {roleIds : List String} {s t : Provisioning}
    {r : Except ScimError Nat} (ran : assignRoles tenantId userId roleIds s = (r, t)) :
    ∃ added : List String,
      t = { s with identity := { s.identity with
        assignments := s.identity.assignments ++ added.map (⟨tenantId, userId, ·⟩) } } ∧
      added ⊆ roleIds ∧ ∀ n, r = .ok n →
        ∀ role ∈ roleIds, role ∈ s.identity.roleIdsOf tenantId userId ∨ role ∈ added := by
  unfold assignRoles at ran
  obtain ⟨raised, first, rfl⟩ | ⟨existing, s₁, first, ran⟩ := bind_cases ran
  · rw [consult_apply] at first
    obtain ⟨-, rfl⟩ := Prod.mk.inj first
    exact ⟨[], by simp, List.nil_subset _, fun _ done => nomatch done⟩
  · rw [consult_apply] at first
    obtain ⟨listed, rfl⟩ := Prod.mk.inj first
    obtain rfl : existing = s.identity.roleIdsOf tenantId userId := by
      unfold InMemoryIdentityService.listRoleIdsForUser at listed
      cases present : s.identity.getUser tenantId userId with
      | error raised =>
        rw [present] at listed
        cases listed
      | ok found =>
        rw [present] at listed
        cases listed
        rfl
    exact assignMissing_cases ran

/-- The account that an active user is resolved to, and the accounts after that: the one linked,
one that is there, or a new one. -/
inductive Resolved (tenantId providerId : String) (s : Provisioning) (user : ScimUserResource) :
    Nat → List UserAccount → Prop
  | linked (link : ScimUserLink) (found : UserAccount)
      (is_linked : s.store.findUserLink tenantId providerId user.externalId = some link)
      (present : s.identity.getUser tenantId link.userId = .ok found) :
      Resolved tenantId providerId s user link.userId s.identity.users
  | known (userId : Nat) (found : UserAccount)
      (unlinked : s.store.findUserLink tenantId providerId user.externalId = none)
      (present : s.identity.getUser tenantId userId = .ok found) :
      Resolved tenantId providerId s user userId s.identity.users
  | created (email passwordHash : String)
      (unlinked : s.store.findUserLink tenantId providerId user.externalId = none) :
      Resolved tenantId providerId s user s.identity.users.length
        (s.identity.users ++
          [{ tenantId := tenantId, email := email, passwordHash := passwordHash }])

theorem resolveOrCreateUser_cases {passwordHash : String → String} {user : ScimUserResource}
    {jit : Bool} {s t : Provisioning} {r : Except ScimError (Nat × Bool)}
    (ran : resolveOrCreateUser lower tenantId passwordHash user
      (s.store.findUserLink tenantId providerId user.externalId) jit s = (r, t)) :
    (∃ raised, r = .error raised ∧ t = s) ∨
      ∃ userId created users, r = .ok (userId, created) ∧
        Resolved tenantId providerId s user userId users ∧
        t = { s with identity := { s.identity with users := users } } := by
  unfold resolveOrCreateUser at ran
  cases existing : s.store.findUserLink tenantId providerId user.externalId with
  | some link =>
    rw [existing] at ran
    simp only [bind_apply, consult_apply] at ran
    cases present : s.identity.getUser tenantId link.userId with
    | error raised =>
      rw [present] at ran
      cases ran
      exact .inl ⟨raised, rfl, rfl⟩
    | ok found =>
      rw [present] at ran
      cases ran
      exact .inr ⟨_, _, _, rfl, .linked link found existing present, rfl⟩
  | none =>
    rw [existing] at ran
    simp only at ran
    split at ran
    · next userId found =>
      cases ran
      obtain ⟨account, present⟩ := InMemoryIdentityService.getUserByEmail_eq_ok found
      exact .inr ⟨_, _, _, rfl, .known userId account existing present, rfl⟩
    · split at ran
      · obtain ⟨raised, first, rfl⟩ | ⟨_, s₁, first, ends⟩ := bind_cases ran
        · obtain ⟨-, -, rfl⟩ | ⟨_, _, ok, -⟩ := onIdentity_cases first
          · exact .inl ⟨raised, rfl, rfl⟩
          · cases ok
        · cases ends
          obtain ⟨_, failed, -⟩ | ⟨identity, done, -, rfl⟩ := onIdentity_cases first
          · cases failed
          · rw [InMemoryIdentityService.createUser_eq_ok done]
            exact .inr ⟨_, _, _, rfl, .created _ _ existing, rfl⟩
      · cases ran
        exact .inl ⟨_, rfl, rfl⟩
    · cases ran
      exact .inl ⟨_, rfl, rfl⟩

/-- What the import leaves of one user, whether it has gone through or raised: nothing, the account
disabled, or the account linked with more of its roles. -/
inductive Touched (lower : String → String) (tenantId providerId : String) (roleIds : List String)
    (s : Provisioning) (user : ScimUserResource) : Prop → Provisioning → Prop
  | failed : Touched lower tenantId providerId roleIds s user False s
  | skipped (inactive : user.active = false)
      (unlinked : s.store.findUserLink tenantId providerId user.externalId = none) :
      Touched lower tenantId providerId roleIds s user True s
  | disabled (link : ScimUserLink) (found : UserAccount) (inactive : user.active = false)
      (is_linked : s.store.findUserLink tenantId providerId user.externalId = some link)
      (present : s.identity.getUser tenantId link.userId = .ok found) :
      Touched lower tenantId providerId roleIds s user True
        { identity := { s.identity with
            users := s.identity.users.set link.userId { found with status := .disabled } }
          store := s.store.upsertUserLink {
            tenantId := tenantId
            providerId := providerId
            externalId := user.externalId
            userId := link.userId
            email := link.email
            active := false } }
  | enrolled (complete : Prop) (userId : Nat) (users : List UserAccount) (added : List String)
      (active : user.active = true) (resolved : Resolved tenantId providerId s user userId users)
      (asked : added ⊆ roleIds)
      (whole : complete → ∀ role ∈ roleIds,
        role ∈ s.identity.roleIdsOf tenantId userId ∨ role ∈ added) :
      Touched lower tenantId providerId roleIds s user complete
        { identity := { s.identity with
            users := users
            assignments := s.identity.assignments ++ added.map (⟨tenantId, userId, ·⟩) }
          store := s.store.upsertUserLink {
            tenantId := tenantId
            providerId := providerId
            externalId := user.externalId
            userId := userId
            email := user.emailAddress lower
            active := true } }

variable {call : ImportCall} {provider : ScimProviderEntry}
  {mappings : List ScimGroupRoleMappingEntry}

theorem importUser_touches {result : ScimImportResult} {user : ScimUserResource}
    {s t : Provisioning} {r : Except ScimError ScimImportResult}
    (ran : importUser lower tenantId providerId call provider mappings result user s = (r, t)) :
    Touched lower tenantId providerId
      (roleIdsForUser call.order provider.defaultRoleIds
        (call.request.groupIdsOf user.externalId) mappings) s user (∃ done, r = .ok done) t := by
  unfold importUser at ran
  simp only [read_bind] at ran
  by_cases active : user.active = true
  · rw [if_pos active] at ran
    obtain ⟨raised, first, rfl⟩ | ⟨⟨userId, created⟩, s₁, first, ran⟩ := bind_cases ran
    · obtain ⟨_, -, rfl⟩ | ⟨_, _, _, ok, -⟩ := resolveOrCreateUser_cases first
      · simpa using Touched.failed
      · cases ok
    · obtain ⟨_, raised, -⟩ | ⟨_, _, users, same, resolved, rfl⟩ := resolveOrCreateUser_cases first
      · cases raised
      · cases same
        simp only [update_bind] at ran
        obtain ⟨answer, assigned, returns⟩ : ∃ answer, assignRoles tenantId userId
            (roleIdsForUser call.order provider.defaultRoleIds
              (call.request.groupIdsOf user.externalId) mappings) _ = (answer, t) ∧
            ((∃ done, r = .ok done) → ∃ n, answer = .ok n) := by
          obtain ⟨raised, inner, rfl⟩ | ⟨n, s₂, inner, ends⟩ := bind_cases ran
          · exact ⟨_, inner, fun ⟨_, done⟩ => nomatch done⟩
          · cases ends
            exact ⟨_, inner, fun _ => ⟨n, rfl⟩⟩
        obtain ⟨added, rfl, asked, whole⟩ := assignRoles_cases assigned
        refine .enrolled _ userId users added active resolved asked fun complete => ?_
        obtain ⟨n, returned⟩ := returns complete
        exact whole n returned
  · rw [if_neg active] at ran
    have inactive : user.active = false := Bool.eq_false_iff.mpr active
    cases existing : s.store.findUserLink tenantId providerId user.externalId with
    | none =>
      rw [existing] at ran
      cases ran
      simpa using Touched.skipped inactive existing
    | some link =>
      rw [existing] at ran
      obtain ⟨raised, first, rfl⟩ | ⟨_, s₁, first, ran⟩ := bind_cases ran
      · obtain ⟨-, -, rfl⟩ | ⟨_, _, ok, -⟩ := onIdentity_cases first
        · simpa using Touched.failed
        · cases ok
      · obtain ⟨_, failed, -⟩ | ⟨identity, done, -, rfl⟩ := onIdentity_cases first
        · cases failed
        · cases ran
          obtain ⟨found, present, rfl⟩ := InMemoryIdentityService.setUserStatus_eq_ok done
          simpa using Touched.disabled link found inactive existing present

section Consequences

variable {roleIds : List String} {user : ScimUserResource} {s t : Provisioning} {complete : Prop}

@[simp] theorem findUserLink_upsert {store : InMemoryScimProvisioningStore}
    {externalId x email : String} {userId : Nat} {active : Bool} :
    (store.upsertUserLink ⟨tenantId, providerId, externalId, userId, email, active⟩).findUserLink
        tenantId providerId x =
      if x = externalId then some ⟨tenantId, providerId, externalId, userId, email, active⟩
      else store.findUserLink tenantId providerId x := by
  unfold InMemoryScimProvisioningStore.findUserLink InMemoryScimProvisioningStore.upsertUserLink
  rw [Table.get?_put]
  simp only [ScimUserLink.key, tenantItemKey_inj]

theorem linkedTo_upsert {identity : InMemoryIdentityService} {externalId x email : String}
    {userId : Nat} {active : Bool} :
    Provisioning.linkedTo tenantId providerId ⟨identity, s.store.upsertUserLink
        ⟨tenantId, providerId, externalId, userId, email, active⟩⟩ x =
      if x = externalId then some userId else s.linkedTo tenantId providerId x := by
  rw [Provisioning.linkedTo, findUserLink_upsert]
  split <;> rfl

theorem holds_iff {s : Provisioning} {account : Nat} {role : String} :
    s.Holds tenantId account role ↔ ⟨tenantId, account, role⟩ ∈ s.identity.assignments := by
  unfold Provisioning.Holds InMemoryIdentityService.roleIdsOf
  rw [List.mem_map]
  constructor
  · rintro ⟨⟨tenant, holder, held⟩, member, rfl⟩
    obtain ⟨member, same⟩ := List.mem_filter.mp member
    simp only [Bool.and_eq_true, decide_eq_true_eq] at same
    rwa [← same.1, ← same.2]
  · exact fun member => ⟨_, List.mem_filter.mpr ⟨member, by simp⟩, rfl⟩

theorem Resolved.linkedTo {userId account : Nat} {users : List UserAccount}
    (resolved : Resolved tenantId providerId s user userId users)
    (before : s.linkedTo tenantId providerId user.externalId = some account) :
    userId = account := by
  unfold Provisioning.linkedTo at before
  cases resolved with
  | linked link found is_linked present =>
    rw [is_linked] at before
    exact Option.some.inj before
  | known userId found unlinked present =>
    rw [unlinked] at before
    cases before
  | created email passwordHash unlinked =>
    rw [unlinked] at before
    cases before

theorem Resolved.kept {userId account : Nat} {users : List UserAccount} {found : UserAccount}
    (resolved : Resolved tenantId providerId s user userId users)
    (there : s.identity.users[account]? = some found) : users[account]? = some found := by
  cases resolved with
  | linked => exact there
  | known => exact there
  | created =>
    rw [List.getElem?_append_left (List.getElem?_eq_some_iff.mp there).1]
    exact there

theorem Resolved.present {userId : Nat} {users : List UserAccount}
    (resolved : Resolved tenantId providerId s user userId users) :
    ∃ found, users[userId]? = some found ∧ found.tenantId = tenantId := by
  cases resolved with
  | linked link found is_linked present =>
    exact ⟨found, InMemoryIdentityService.getUser_eq_ok.mp present⟩
  | known userId found unlinked present =>
    exact ⟨found, InMemoryIdentityService.getUser_eq_ok.mp present⟩
  | created email passwordHash unlinked => exact ⟨_, List.getElem?_concat_length, rfl⟩

theorem Resolved.status {userId account : Nat} {users : List UserAccount}
    (resolved : Resolved tenantId providerId s user userId users) :
    (users[account]?.map UserAccount.status).getD .active = s.status account := by
  unfold Provisioning.status
  cases resolved with
  | linked => rfl
  | known => rfl
  | created =>
    rw [List.getElem?_append]
    split
    · rfl
    · next beyond =>
      rw [List.getElem?_eq_none (Nat.le_of_not_lt beyond)]
      cases account - s.identity.users.length with
      | zero => rfl
      | succ n => rfl

namespace Touched

theorem linkedTo (touched : Touched lower tenantId providerId roleIds s user complete t)
    {x : String} {account : Nat} (before : s.linkedTo tenantId providerId x = some account) :
    t.linkedTo tenantId providerId x = some account := by
  cases touched with
  | failed => exact before
  | skipped => exact before
  | disabled link found inactive is_linked present =>
    rw [linkedTo_upsert]
    split
    · next same =>
      subst same
      rw [Provisioning.linkedTo, is_linked] at before
      exact before
    · exact before
  | enrolled _ userId users added active resolved asked whole =>
    rw [linkedTo_upsert]
    split
    · next same =>
      subst same
      exact congrArg some (resolved.linkedTo before)
    · exact before

theorem linked_iff (touched : Touched lower tenantId providerId roleIds s user complete t)
    (done : complete) {x : String} :
    t.linkedTo tenantId providerId x ≠ none ↔
      s.linkedTo tenantId providerId x ≠ none ∨ user.externalId = x ∧ user.active = true := by
  cases touched with
  | failed => exact done.elim
  | skipped inactive unlinked => simp [inactive]
  | disabled link found inactive is_linked present =>
    rw [linkedTo_upsert]
    split
    · next same =>
      subst same
      simp [Provisioning.linkedTo, is_linked]
    · simp [inactive]
  | enrolled _ userId users added active resolved asked whole =>
    rw [linkedTo_upsert]
    split
    · next same => simp [same, active]
    · next other => simp [Ne.symm other]

theorem present (touched : Touched lower tenantId providerId roleIds s user complete t)
    {account : Nat} (before : s.Present tenantId account) : t.Present tenantId account := by
  obtain ⟨found, there⟩ := before
  obtain ⟨there, ours⟩ := InMemoryIdentityService.getUser_eq_ok.mp there
  unfold Provisioning.Present
  simp only [InMemoryIdentityService.getUser_eq_ok]
  cases touched with
  | failed => exact ⟨found, there, ours⟩
  | skipped => exact ⟨found, there, ours⟩
  | disabled link other inactive is_linked present =>
    obtain ⟨present, -⟩ := InMemoryIdentityService.getUser_eq_ok.mp present
    rw [List.getElem?_set]
    split
    · next same =>
      subst same
      obtain rfl : found = other := Option.some.inj (there.symm.trans present)
      rw [if_pos (List.getElem?_eq_some_iff.mp there).1]
      exact ⟨_, rfl, ours⟩
    · exact ⟨found, there, ours⟩
  | enrolled _ userId users added active resolved asked whole =>
    exact ⟨found, resolved.kept there, ours⟩

theorem present_linked (touched : Touched lower tenantId providerId roleIds s user complete t)
    (done : complete) {account : Nat}
    (after : t.linkedTo tenantId providerId user.externalId = some account) :
    t.Present tenantId account := by
  cases touched with
  | failed => exact done.elim
  | skipped inactive unlinked =>
    rw [Provisioning.linkedTo, unlinked] at after
    cases after
  | disabled link found inactive is_linked present =>
    rw [linkedTo_upsert, if_pos rfl] at after
    cases after
    exact (disabled link found inactive is_linked present : Touched lower tenantId providerId
      roleIds s user True _).present ⟨found, present⟩
  | enrolled _ userId users added active resolved asked whole =>
    rw [linkedTo_upsert, if_pos rfl] at after
    cases after
    obtain ⟨found, there⟩ := resolved.present
    exact ⟨found, InMemoryIdentityService.getUser_eq_ok.mpr there⟩

theorem status_disabled (touched : Touched lower tenantId providerId roleIds s user complete t)
    (done : complete) {account : Nat} (inactive : user.active = false)
    (before : s.linkedTo tenantId providerId user.externalId = some account) :
    t.status account = .disabled := by
  cases touched with
  | failed => exact done.elim
  | skipped _ unlinked =>
    rw [Provisioning.linkedTo, unlinked] at before
    cases before
  | disabled link found _ is_linked present =>
    rw [Provisioning.linkedTo, is_linked] at before
    cases before
    obtain ⟨there, -⟩ := InMemoryIdentityService.getUser_eq_ok.mp present
    unfold Provisioning.status
    rw [List.getElem?_set_self (List.getElem?_eq_some_iff.mp there).1]
    rfl
  | enrolled _ userId users added active resolved asked whole => simp [inactive] at active

theorem status_kept (touched : Touched lower tenantId providerId roleIds s user complete t)
    {account : Nat} (other : ¬(user.active = false ∧
      s.linkedTo tenantId providerId user.externalId = some account)) :
    t.status account = s.status account := by
  cases touched with
  | failed => rfl
  | skipped => rfl
  | disabled link found inactive is_linked present =>
    unfold Provisioning.status
    rw [List.getElem?_set_ne]
    rintro rfl
    exact other ⟨inactive, by rw [Provisioning.linkedTo, is_linked]; rfl⟩
  | enrolled _ userId users added active resolved asked whole => exact resolved.status

theorem holds (touched : Touched lower tenantId providerId roleIds s user complete t)
    {account : Nat} {role : String} (before : s.Holds tenantId account role) :
    t.Holds tenantId account role := by
  rw [holds_iff] at before ⊢
  cases touched with
  | failed => exact before
  | skipped => exact before
  | disabled => exact before
  | enrolled => exact List.mem_append_left _ before

theorem holds_iff (touched : Touched lower tenantId providerId roleIds s user complete t)
    (done : complete) {account : Nat} {role : String} :
    t.Holds tenantId account role ↔ s.Holds tenantId account role ∨ user.active = true ∧
      t.linkedTo tenantId providerId user.externalId = some account ∧ role ∈ roleIds := by
  rw [Scim.holds_iff, Scim.holds_iff]
  cases touched with
  | failed => exact done.elim
  | skipped inactive unlinked => simp [inactive]
  | disabled link found inactive is_linked present => simp [inactive]
  | enrolled _ userId users added active resolved asked whole =>
    rw [linkedTo_upsert, if_pos rfl]
    simp only [List.mem_append, List.mem_map, RoleAssignment.mk.injEq, true_and, active,
      Option.some.injEq]
    constructor
    · rintro (before | ⟨given, member, same, rfl⟩)
      · exact .inl before
      · exact .inr ⟨same, asked member⟩
    · rintro (before | ⟨rfl, member⟩)
      · exact .inl before
      · obtain held | given := whole done role member
        · exact .inl (Scim.holds_iff.mp held)
        · exact .inr ⟨role, given, rfl, rfl⟩

theorem registry (touched : Touched lower tenantId providerId roleIds s user complete t) :
    t.store.providers = s.store.providers ∧
      t.store.groupRoleMappings = s.store.groupRoleMappings := by
  cases touched <;> exact ⟨rfl, rfl⟩

end Touched

end Consequences

end Users

end Taroai.Scim
