import Taroai.Scim.Effects
import Taroai.Lib.Machine
import Mathlib.Data.List.Induction

/-! How far sequences of imports follow the directory. An import disables the accounts of the users
that have left and gives the others the roles of their groups and the defaults. It enables no
account again and takes no role away: neither reactivation nor removal of an assignment exists. -/

namespace Taroai.Scim

open Tenancy Raising

section Effect

variable {lower : String → String} {tenantId providerId : String}

structure Effect (tenantId providerId : String) (given : ScimUserResource → String → Prop)
    (users : List ScimUserResource) (s t : Provisioning) : Prop where
  linked_kept : ∀ x account, s.linkedTo tenantId providerId x = some account →
    t.linkedTo tenantId providerId x = some account
  linked_iff : ∀ x, t.linkedTo tenantId providerId x ≠ none ↔
    s.linkedTo tenantId providerId x ≠ none ∨ true ∈ flags users x
  present_kept : ∀ account, s.Present tenantId account → t.Present tenantId account
  present : ∀ user ∈ users, ∀ account,
    t.linkedTo tenantId providerId user.externalId = some account → t.Present tenantId account
  disabled : ∀ x account, t.linkedTo tenantId providerId x = some account →
    Deactivated (s.linkedTo tenantId providerId x ≠ none) (flags users x) →
    t.status account = .disabled
  unchanged : ∀ account, (∀ x, t.linkedTo tenantId providerId x = some account →
      ¬Deactivated (s.linkedTo tenantId providerId x ≠ none) (flags users x)) →
    t.status account = s.status account
  holds_iff : ∀ account role, t.Holds tenantId account role ↔ s.Holds tenantId account role ∨
    ∃ user ∈ users, user.active = true ∧
      t.linkedTo tenantId providerId user.externalId = some account ∧ given user role

variable {given : ScimUserResource → String → Prop} {user : ScimUserResource}
  {rest : List ScimUserResource} {s s₁ t : Provisioning} {roleIds : List String}

theorem Touched.deactivated (touched : Touched lower tenantId providerId roleIds s user True s₁)
    (x : String) :
    Deactivated (s.linkedTo tenantId providerId x ≠ none) (flags (user :: rest) x) ↔
      (user.externalId = x ∧ user.active = false ∧ s.linkedTo tenantId providerId x ≠ none) ∨
        Deactivated (s₁.linkedTo tenantId providerId x ≠ none) (flags rest x) := by
  rw [flags_cons, touched.linked_iff trivial]
  by_cases same : user.externalId = x
  · simp only [same, if_true, true_and, deactivated_cons]
  · simp only [same, if_false, false_and, false_or, or_false]

theorem Effect.refl : Effect tenantId providerId given [] s s where
  linked_kept _ _ before := before
  linked_iff _ := by simp
  present_kept _ before := before
  present _ member := nomatch member
  disabled _ _ _ both := by simp [Deactivated] at both
  unchanged _ _ := rfl
  holds_iff _ _ := by simp

theorem Effect.cons (touched : Touched lower tenantId providerId roleIds s user True s₁)
    (same : ∀ role, role ∈ roleIds ↔ given user role)
    (effect : Effect tenantId providerId given rest s₁ t) :
    Effect tenantId providerId given (user :: rest) s t where
  linked_kept x account before := effect.linked_kept x account (touched.linkedTo before)
  linked_iff x := by
    rw [effect.linked_iff, touched.linked_iff trivial, flags_cons]
    by_cases here : user.externalId = x
    · cases active : user.active <;> simp [here]
    · simp [here]
  present_kept account before := effect.present_kept account (touched.present before)
  present := by
    intro listed member account after
    obtain rfl | later := List.mem_cons.mp member
    · cases between : s₁.linkedTo tenantId providerId listed.externalId with
      | some found =>
        obtain rfl : found = account :=
          Option.some.inj ((effect.linked_kept _ _ between).symm.trans after)
        exact effect.present_kept found (touched.present_linked trivial between)
      | none =>
        -- a later user of the same external id has made the link
        have linked := (effect.linked_iff listed.externalId).mp (by simp [after])
        simp only [between, ne_eq, not_true_eq_false, false_or] at linked
        obtain ⟨other, there, same, -⟩ := mem_flags.mp linked
        exact effect.present other there account (same ▸ after)
    · exact effect.present listed later account after
  disabled := by
    intro x account after deactivated
    obtain ⟨rfl, inactive, linked⟩ | later := (touched.deactivated x).mp deactivated
    · obtain ⟨found, before⟩ := Option.ne_none_iff_exists'.mp linked
      obtain rfl : found = account :=
        Option.some.inj ((effect.linked_kept _ _ (touched.linkedTo before)).symm.trans after)
      have here := touched.status_disabled trivial inactive before
      by_cases again : ∃ y, t.linkedTo tenantId providerId y = some found ∧
          Deactivated (s₁.linkedTo tenantId providerId y ≠ none) (flags rest y)
      · obtain ⟨y, linked, later⟩ := again
        exact effect.disabled y found linked later
      · rw [effect.unchanged found fun y linked later => again ⟨y, linked, later⟩]
        exact here
    · exact effect.disabled x account after later
  unchanged := by
    intro account never
    rw [effect.unchanged account fun x after later =>
      never x after ((touched.deactivated x).mpr (.inr later))]
    refine touched.status_kept fun ⟨inactive, before⟩ => ?_
    have after := effect.linked_kept _ _ (touched.linkedTo before)
    exact never _ after ((touched.deactivated _).mpr
      (.inl ⟨rfl, inactive, by simp [before]⟩))
  holds_iff account role := by
    rw [effect.holds_iff, touched.holds_iff trivial, same, or_assoc]
    refine or_congr_right ?_
    -- the account of the first user stays its account
    have stays : (user.active = true ∧
          s₁.linkedTo tenantId providerId user.externalId = some account ∧ given user role) ↔
        (user.active = true ∧
          t.linkedTo tenantId providerId user.externalId = some account ∧ given user role) := by
      refine and_congr_right fun active => and_congr_left fun _ => ?_
      obtain ⟨found, between⟩ := Option.ne_none_iff_exists'.mp
        ((touched.linked_iff trivial).mpr (.inr ⟨rfl, active⟩))
      rw [between, effect.linked_kept _ _ between]
    rw [stays]
    simp

theorem Effect.recorded {users : List ScimUserResource}
    (effect : Effect tenantId providerId given users s t) (record : ScimImportRecord) :
    Effect tenantId providerId given users s
      { t with store := t.store.recordImportResult record } :=
  ⟨effect.linked_kept, effect.linked_iff, effect.present_kept, effect.present, effect.disabled,
    effect.unchanged, effect.holds_iff⟩

end Effect

section Links

variable {lower : String → String} {tenantId providerId : String}

/-- What a user makes of the link of its external id, where the account is known. -/
def relink (lower : String → String) (tenantId providerId : String) (account : Nat)
    (link : Option ScimUserLink) (user : ScimUserResource) : Option ScimUserLink :=
  if user.active then
    some ⟨tenantId, providerId, user.externalId, account, user.emailAddress lower, true⟩
  else link.map fun link =>
    ⟨tenantId, providerId, user.externalId, link.userId, link.email, false⟩

theorem relink_relink_inactive {account : Nat} {link : Option ScimUserLink}
    {user other : ScimUserResource} (same : user.externalId = other.externalId)
    (inactive : other.active = false) :
    relink lower tenantId providerId account (relink lower tenantId providerId account link other)
      user = relink lower tenantId providerId account link user := by
  unfold relink
  cases user.active <;> simp [inactive, same, Function.comp_def]

theorem foldl_relink_inactive {account : Nat} {user : ScimUserResource}
    (inactive : user.active = false) (users : List ScimUserResource)
    (same : ∀ other ∈ users, other.externalId = user.externalId) (link : Option ScimUserLink) :
    relink lower tenantId providerId account (users.foldl (relink lower tenantId providerId account)
        (relink lower tenantId providerId account link user)) user =
      relink lower tenantId providerId account
        (users.foldl (relink lower tenantId providerId account) link) user := by
  cases users with
  | nil => exact relink_relink_inactive rfl inactive
  | cons other rest =>
    rw [List.foldl_cons, List.foldl_cons,
      relink_relink_inactive (same other List.mem_cons_self) inactive]

theorem foldl_relink_twice {account : Nat} {x : String} (users : List ScimUserResource)
    (same : ∀ user ∈ users, user.externalId = x) (link : Option ScimUserLink) :
    users.foldl (relink lower tenantId providerId account)
        (users.foldl (relink lower tenantId providerId account) link) =
      users.foldl (relink lower tenantId providerId account) link := by
  induction users using List.reverseRecOn with
  | nil => rfl
  | append_singleton before last ih =>
    have earlier : ∀ user ∈ before, user.externalId = x :=
      fun user member => same user (List.mem_append_left _ member)
    have final : last.externalId = x := same last (by simp)
    simp only [List.foldl_append, List.foldl_cons, List.foldl_nil]
    cases active : last.active with
    | true => simp [relink, active]
    | false =>
      rw [foldl_relink_inactive active before fun other member =>
        (earlier other member).trans final.symm, ih earlier]

theorem Touched.findUserLink {roleIds : List String} {user : ScimUserResource}
    {s t : Provisioning} {complete : Prop} {account : Nat}
    (touched : Touched lower tenantId providerId roleIds s user complete t) (done : complete)
    (after : ∀ found, t.linkedTo tenantId providerId user.externalId = some found →
      found = account) :
    t.store.findUserLink tenantId providerId user.externalId =
      relink lower tenantId providerId account
        (s.store.findUserLink tenantId providerId user.externalId) user := by
  cases touched with
  | failed => exact done.elim
  | skipped inactive unlinked => simp [relink, inactive, unlinked]
  | disabled link found inactive is_linked present => simp [relink, inactive, is_linked]
  | enrolled _ userId users added active resolved asked whole =>
    rw [linkedTo_upsert, if_pos rfl] at after
    obtain rfl := after userId rfl
    simp [relink, active]

theorem Touched.findUserLink_other {roleIds : List String} {user : ScimUserResource}
    {s t : Provisioning} {complete : Prop} {x : String}
    (touched : Touched lower tenantId providerId roleIds s user complete t)
    (other : user.externalId ≠ x) :
    t.store.findUserLink tenantId providerId x = s.store.findUserLink tenantId providerId x := by
  cases touched with
  | failed => rfl
  | skipped => rfl
  | disabled => rw [findUserLink_upsert, if_neg other.symm]
  | enrolled => rw [findUserLink_upsert, if_neg other.symm]

theorem Touched.foreign_link {roleIds : List String} {user : ScimUserResource}
    {s t : Provisioning} {complete : Prop} {key : String}
    (touched : Touched lower tenantId providerId roleIds s user complete t)
    (foreign : ∀ x, key ≠ tenantItemKey tenantId providerId x) :
    t.store.userLinks.get? key = s.store.userLinks.get? key := by
  cases touched with
  | failed => rfl
  | skipped => rfl
  | disabled => exact Table.get?_put_ne _ _ (foreign user.externalId)
  | enrolled => exact Table.get?_put_ne _ _ (foreign user.externalId)

end Links

section Loop

variable {lower : String → String} {tenantId providerId : String} {call : ImportCall}
  {provider : ScimProviderEntry} {mappings : List ScimGroupRoleMappingEntry}

def ImportCall.roleIds (call : ImportCall) (provider : ScimProviderEntry)
    (mappings : List ScimGroupRoleMappingEntry) (user : ScimUserResource) : List String :=
  roleIdsForUser call.order provider.defaultRoleIds (call.request.groupIdsOf user.externalId)
    mappings

theorem importUsers_effect {users : List ScimUserResource} {result done : ScimImportResult}
    {s t : Provisioning}
    (ran : importUsers lower tenantId providerId call provider mappings result users s =
      (.ok done, t)) :
    Effect tenantId providerId (fun user role => role ∈ call.roleIds provider mappings user)
        users s t ∧
      (t.store.providers = s.store.providers ∧
        t.store.groupRoleMappings = s.store.groupRoleMappings) ∧
      (∀ key, (∀ x, key ≠ tenantItemKey tenantId providerId x) →
        t.store.userLinks.get? key = s.store.userLinks.get? key) ∧
      ∀ x account, t.linkedTo tenantId providerId x = some account →
        t.store.findUserLink tenantId providerId x =
          (users.filter fun user => user.externalId = x).foldl
            (relink lower tenantId providerId account)
            (s.store.findUserLink tenantId providerId x) := by
  induction users generalizing s result with
  | nil =>
    cases ran
    exact ⟨.refl, ⟨rfl, rfl⟩, fun _ _ => rfl, fun _ _ _ => rfl⟩
  | cons user rest ih =>
    obtain ⟨between, s₁, first, later⟩ := bind_eq_ok.mp ran
    have touched := importUser_touches first
    simp only [Except.ok.injEq, exists_eq'] at touched
    obtain ⟨effect, registry, others, links⟩ := ih later
    refine ⟨.cons touched (fun _ => Iff.rfl) effect, ?_, fun key foreign => ?_,
      fun x account after => ?_⟩
    · exact ⟨registry.1.trans touched.registry.1, registry.2.trans touched.registry.2⟩
    · rw [others key foreign, touched.foreign_link foreign]
    · rw [links x account after, List.filter_cons]
      by_cases same : user.externalId = x
      · subst same
        rw [touched.findUserLink trivial fun found between =>
          Option.some.inj ((effect.linked_kept _ _ between).symm.trans after)]
        simp
      · rw [touched.findUserLink_other same]
        simp [same]

/-- An import that comes to users whose accounts are already as it would leave them goes through
and leaves the accounts and roles alone. -/
structure AsDirected (tenantId providerId : String) (roleIds : List String) (s : Provisioning)
    (user : ScimUserResource) : Prop where
  enrolled : user.active = true → ∃ account,
    s.linkedTo tenantId providerId user.externalId = some account ∧ s.Present tenantId account ∧
      ∀ role ∈ roleIds, s.Holds tenantId account role
  departed : user.active = false → ∀ account,
    s.linkedTo tenantId providerId user.externalId = some account →
      s.Present tenantId account ∧ s.status account = .disabled

theorem assignMissing_held {userId : Nat} {existing roleIds : List String}
    (held : roleIds ⊆ existing) (s : Provisioning) :
    assignMissing tenantId userId existing roleIds s = (.ok 0, s) := by
  induction roleIds with
  | nil => rfl
  | cons roleId rest ih =>
    rw [assignMissing, if_pos (held List.mem_cons_self)]
    exact ih fun role member => held (List.mem_cons_of_mem _ member)

theorem assignRoles_held {userId : Nat} {roleIds : List String} {s : Provisioning}
    (present : s.Present tenantId userId) (held : ∀ role ∈ roleIds, s.Holds tenantId userId role) :
    assignRoles tenantId userId roleIds s = (.ok 0, s) := by
  obtain ⟨found, present⟩ := present
  have listed : s.identity.listRoleIdsForUser tenantId userId =
      .ok (s.identity.roleIdsOf tenantId userId) := by
    unfold InMemoryIdentityService.listRoleIdsForUser
    rw [present]
    rfl
  unfold assignRoles
  rw [bind_apply, consult_apply, listed]
  exact assignMissing_held held s

theorem disableUser_disabled {identity : InMemoryIdentityService} {userId : Nat}
    {found : UserAccount} (present : identity.getUser tenantId userId = .ok found)
    (already : found.status = .disabled) :
    identity.disableUser tenantId userId = .ok identity := by
  unfold InMemoryIdentityService.disableUser InMemoryIdentityService.setUserStatus
  rw [present]
  obtain ⟨there, -⟩ := InMemoryIdentityService.getUser_eq_ok.mp present
  obtain ⟨bound, there⟩ := List.getElem?_eq_some_iff.mp there
  have same : { found with status := .disabled } = identity.users[userId] := by
    rw [there, ← already]
  change Except.ok { identity with
    users := identity.users.set userId { found with status := .disabled } } = _
  rw [same, List.set_getElem_self]

theorem importUser_again (lower : String → String) {user : ScimUserResource} {s : Provisioning}
    (directed : AsDirected tenantId providerId (call.roleIds provider mappings user) s user)
    (result : ScimImportResult) :
    ∃ done t, importUser lower tenantId providerId call provider mappings result user s =
      (.ok done, t) ∧ t.identity = s.identity := by
  unfold importUser
  rw [read_bind]
  cases existing : s.store.findUserLink tenantId providerId user.externalId with
  | none =>
    have unlinked : s.linkedTo tenantId providerId user.externalId = none := by
      rw [Provisioning.linkedTo, existing]
      rfl
    cases active : user.active with
    | true =>
      obtain ⟨account, linked, -⟩ := directed.enrolled active
      rw [unlinked] at linked
      cases linked
    | false => exact ⟨_, _, rfl, rfl⟩
  | some link =>
    have linked : s.linkedTo tenantId providerId user.externalId = some link.userId := by
      rw [Provisioning.linkedTo, existing]
      rfl
    cases active : user.active with
    | true =>
      obtain ⟨account, same, present, held⟩ := directed.enrolled active
      obtain rfl : link.userId = account := Option.some.inj (linked.symm.trans same)
      have resolved : resolveOrCreateUser lower tenantId call.passwordHash user (some link)
          provider.jitCreateUsers s = (.ok (link.userId, false), s) := by
        obtain ⟨found, present⟩ := present
        simp only [resolveOrCreateUser, bind_apply, consult_apply, present, pure_apply]
      rw [if_pos rfl, bind_of_ok resolved]
      simp only [update_bind]
      refine ⟨_, _, bind_of_ok (assignRoles_held ?_ ?_) _, rfl⟩
      · exact present
      · exact held
    | false =>
      obtain ⟨⟨found, present⟩, disabled⟩ := directed.departed active _ linked
      have already : found.status = .disabled := by
        obtain ⟨there, -⟩ := InMemoryIdentityService.getUser_eq_ok.mp present
        rw [Provisioning.status, there] at disabled
        exact disabled
      have stays : onIdentity (fun identity => identity.disableUser tenantId link.userId) s =
          (.ok (), s) := by
        simp only [onIdentity, disableUser_disabled present already]
      rw [if_neg Bool.false_ne_true]
      simp only [bind_of_ok stays, update_bind]
      exact ⟨_, _, rfl, rfl⟩

theorem importUsers_again (lower : String → String) {users : List ScimUserResource} {s : Provisioning}
    (directed : ∀ user ∈ users,
      AsDirected tenantId providerId (call.roleIds provider mappings user) s user)
    (result : ScimImportResult) :
    ∃ done t, importUsers lower tenantId providerId call provider mappings result users s =
      (.ok done, t) ∧ t.identity = s.identity := by
  induction users generalizing s result with
  | nil => exact ⟨_, _, rfl, rfl⟩
  | cons user rest ih =>
    have here := directed user List.mem_cons_self
    obtain ⟨between, s₁, first, identity⟩ := importUser_again lower here result
    have touched := importUser_touches first
    simp only [Except.ok.injEq, exists_eq'] at touched
    have links (x : String) :
        s₁.linkedTo tenantId providerId x = s.linkedTo tenantId providerId x := by
      cases before : s.linkedTo tenantId providerId x with
      | some account => exact touched.linkedTo before
      | none =>
        by_contra linked
        obtain old | ⟨rfl, active⟩ := (touched.linked_iff trivial).mp linked
        · exact old before
        · obtain ⟨account, there, -⟩ := here.enrolled active
          simp [before] at there
    obtain ⟨done, t, later, same⟩ := ih (s := s₁) (fun listed member => by
      obtain ⟨enrolled, departed⟩ := directed listed (List.mem_cons_of_mem _ member)
      constructor
      · rw [links]
        simpa only [Provisioning.Present, Provisioning.Holds, identity] using enrolled
      · rw [links]
        simpa only [Provisioning.Present, Provisioning.status, identity] using departed) between
    exact ⟨done, t, bind_eq_ok.mpr ⟨between, s₁, first, later⟩, same.trans identity⟩

end Loop

section Directory

def ScimImportRequest.InGroup (request : ScimImportRequest) (groupId externalId : String) : Prop :=
  (∃ user ∈ request.users, user.externalId = externalId ∧ groupId ∈ user.groups) ∨
    ∃ group ∈ request.groups, group.externalId = groupId ∧ externalId ∈ group.members

/-- The role is one of the provider's defaults or of a mapping of a group of the external id. -/
def Provisioning.Gives (tenantId providerId : String) (s : Provisioning)
    (request : ScimImportRequest) (externalId role : String) : Prop :=
  ∃ provider, s.store.getProvider tenantId providerId = .ok provider ∧
    (role ∈ provider.defaultRoleIds ∨
      ∃ mapping ∈ s.store.listGroupRoleMappings tenantId providerId,
        request.InGroup mapping.groupExternalId externalId ∧ role ∈ mapping.roleIds)

variable {tenantId providerId : String}

theorem mem_groupIdsOf {request : ScimImportRequest} {groupId externalId : String} :
    groupId ∈ request.groupIdsOf externalId ↔ request.InGroup groupId externalId := by
  simp only [ScimImportRequest.groupIdsOf, ScimImportRequest.InGroup, List.mem_eraseDups,
    List.mem_append, List.mem_flatMap, List.mem_map, List.mem_filter, decide_eq_true_eq]
  refine or_congr (exists_congr fun user => ?_) (exists_congr fun group => ?_)
  · rw [and_assoc]
  · rw [and_assoc, and_comm (a := externalId ∈ group.members)]

theorem find_mapping {store : InMemoryScimProvisioningStore} {groupId : String}
    {mapping : ScimGroupRoleMappingEntry} :
    (store.listGroupRoleMappings tenantId providerId).reverse.find?
        (fun entry => entry.groupExternalId = groupId) = some mapping ↔
      mapping ∈ store.listGroupRoleMappings tenantId providerId ∧
        mapping.groupExternalId = groupId := by
  constructor
  · intro found
    exact ⟨List.mem_reverse.mp (List.mem_of_find?_eq_some found),
      by simpa using List.find?_some found⟩
  · rintro ⟨member, same⟩
    obtain ⟨other, found⟩ : ∃ other, (store.listGroupRoleMappings tenantId
        providerId).reverse.find? (fun entry => entry.groupExternalId = groupId) = some other := by
      rw [← Option.isSome_iff_exists, List.find?_isSome]
      exact ⟨mapping, List.mem_reverse.mpr member, by simpa using same⟩
    have there := List.mem_reverse.mp (List.mem_of_find?_eq_some found)
    have alike : other.groupExternalId = groupId := by simpa using List.find?_some found
    unfold InMemoryScimProvisioningStore.listGroupRoleMappings at member there
    simp only [List.mem_filter, Bool.and_eq_true, decide_eq_true_eq] at member there
    have key : other.key = mapping.key := by
      unfold ScimGroupRoleMappingEntry.key
      rw [there.2.1, there.2.2, member.2.1, member.2.2, alike, same]
    have stored := Table.get?_of_mem (t := store.groupRoleMappings) there.1
    rw [key, Table.get?_of_mem member.1] at stored
    rw [found, ← stored]

theorem mem_roleIds {call : ImportCall} {provider : ScimProviderEntry} {s : Provisioning}
    {user : ScimUserResource} {role : String}
    (entry : s.store.getProvider tenantId providerId = .ok provider) :
    role ∈ call.roleIds provider (s.store.listGroupRoleMappings tenantId providerId) user ↔
      s.Gives tenantId providerId call.request user.externalId role := by
  unfold ImportCall.roleIds roleIdsForUser Provisioning.Gives
  simp only [List.mem_eraseDups, List.mem_append, List.mem_flatMap,
    (call.order.perm _).mem_iff, mem_groupIdsOf, entry, Except.ok.injEq, exists_eq_left']
  refine or_congr_right ?_
  constructor
  · rintro ⟨groupId, inside, member⟩
    cases found : (s.store.listGroupRoleMappings tenantId providerId).reverse.find?
        fun entry => entry.groupExternalId = groupId with
    | none => simp [found] at member
    | some mapping =>
      rw [found] at member
      obtain ⟨listed, rfl⟩ := find_mapping.mp found
      exact ⟨mapping, listed, inside, member⟩
  · rintro ⟨mapping, listed, inside, member⟩
    refine ⟨mapping.groupExternalId, inside, ?_⟩
    rw [find_mapping.mpr ⟨listed, rfl⟩]
    exact member

end Directory

section Imports

variable {lower : String → String} {tenantId providerId : String}

theorem applyImport_ok {call : ImportCall} {s t : Provisioning} {result : ScimImportResult} :
    applyImport lower tenantId providerId call s = (.ok result, t) ↔
      ∃ provider t₁, s.store.getProvider tenantId providerId = .ok provider ∧
        provider.status = .enabled ∧
        importUsers lower tenantId providerId call provider
            (s.store.listGroupRoleMappings tenantId providerId) { providerId := providerId }
            call.request.users s = (.ok result, t₁) ∧
        t = { t₁ with store := t₁.store.recordImportResult {
          result with
          tenantId := tenantId
          importedByUserId := call.importedByUserId } } := by
  constructor
  · intro ran
    obtain ⟨provider, s₁, first, ran⟩ := bind_eq_ok.mp ran
    obtain ⟨entry, rfl⟩ := Prod.mk.inj first
    obtain ⟨_, s₂, first, ran⟩ := bind_eq_ok.mp ran
    obtain ⟨enabled, rfl⟩ := ensure_eq_ok.mp first
    rw [read_bind] at ran
    obtain ⟨done, t₁, first, ran⟩ := bind_eq_ok.mp ran
    cases ran
    exact ⟨provider, t₁, entry, enabled, first, rfl⟩
  · rintro ⟨provider, t₁, entry, enabled, ran, rfl⟩
    refine bind_eq_ok.mpr ⟨provider, s, Prod.ext entry rfl, ?_⟩
    refine bind_eq_ok.mpr ⟨(), s, ensure_eq_ok.mpr ⟨enabled, rfl⟩, ?_⟩
    rw [read_bind]
    exact bind_eq_ok.mpr ⟨result, t₁, ran, rfl⟩

structure Follows (lower : String → String) (tenantId providerId : String) (call : ImportCall)
    (s t : Provisioning) : Prop where
  linked : ∀ user ∈ call.request.users, user.active = true → ∃ account,
    t.linkedTo tenantId providerId user.externalId = some account ∧ t.Present tenantId account
  disabled : ∀ x account, t.linkedTo tenantId providerId x = some account →
    Deactivated (s.linkedTo tenantId providerId x ≠ none) (flags call.request.users x) →
    t.status account = .disabled
  unchanged : ∀ account, (∀ x, t.linkedTo tenantId providerId x = some account →
      ¬Deactivated (s.linkedTo tenantId providerId x ≠ none) (flags call.request.users x)) →
    t.status account = s.status account
  holds_iff : ∀ account role, t.Holds tenantId account role ↔ s.Holds tenantId account role ∨
    ∃ user ∈ call.request.users, user.active = true ∧
      t.linkedTo tenantId providerId user.externalId = some account ∧
      s.Gives tenantId providerId call.request user.externalId role
  again : (∀ x, s.linkedTo tenantId providerId x = none →
      ¬[false, true].Sublist (flags call.request.users x)) →
    ∀ repeated : ImportCall, repeated.request = call.request → ∃ result u,
      applyImport lower tenantId providerId repeated t = (.ok result, u) ∧
        u.identity = t.identity ∧
        ∀ key, u.store.userLinks.get? key = t.store.userLinks.get? key

structure Kept (tenantId providerId : String) (s t : Provisioning) : Prop where
  linked : ∀ x account, s.linkedTo tenantId providerId x = some account →
    t.linkedTo tenantId providerId x = some account
  holds : ∀ account role, s.Holds tenantId account role → t.Holds tenantId account role
  inactive : ∀ account, s.status account ≠ .active → t.status account ≠ .active

theorem Kept.refl (s : Provisioning) : Kept tenantId providerId s s :=
  ⟨fun _ _ before => before, fun _ _ before => before, fun _ before => before⟩

theorem Kept.trans {s t u : Provisioning} (first : Kept tenantId providerId s t)
    (next : Kept tenantId providerId t u) : Kept tenantId providerId s u where
  linked x account before := next.linked x account (first.linked x account before)
  holds account role before := next.holds account role (first.holds account role before)
  inactive account before := next.inactive account (first.inactive account before)

theorem Touched.kept {roleIds : List String} {user : ScimUserResource} {s t : Provisioning}
    {complete : Prop}
    (touched : Touched lower tenantId providerId roleIds s user complete t) :
    Kept tenantId providerId s t where
  linked _ _ before := touched.linkedTo before
  holds _ _ before := touched.holds before
  inactive account before := by
    cases touched with
    | failed => exact before
    | skipped => exact before
    | disabled link found inactive is_linked present =>
      have touched : Touched lower tenantId providerId roleIds s user True _ :=
        .disabled link found inactive is_linked present
      by_cases here : user.active = false ∧
          s.linkedTo tenantId providerId user.externalId = some account
      · rw [touched.status_disabled trivial here.1 here.2]
        exact UserAccountStatus.noConfusion
      · rw [touched.status_kept here]
        exact before
    | enrolled complete userId users added active resolved asked whole =>
      change (users[account]?.map UserAccount.status).getD .active ≠ _
      rw [resolved.status]
      exact before

theorem importUsers_kept {call : ImportCall} {provider : ScimProviderEntry}
    {mappings : List ScimGroupRoleMappingEntry} {users : List ScimUserResource}
    {result : ScimImportResult} {s t : Provisioning} {r : Except ScimError ScimImportResult}
    (ran : importUsers lower tenantId providerId call provider mappings result users s = (r, t)) :
    Kept tenantId providerId s t := by
  induction users generalizing s result with
  | nil =>
    cases ran
    exact Kept.refl _
  | cons user rest ih =>
    obtain ⟨raised, first, -⟩ | ⟨between, s₁, first, later⟩ := bind_cases ran
    · exact (importUser_touches first).kept
    · exact (importUser_touches first).kept.trans (ih later)

theorem applyImport_kept (call : ImportCall) (s : Provisioning) :
    Kept tenantId providerId s (applyImport lower tenantId providerId call s).2 := by
  cases ran : applyImport lower tenantId providerId call s with
  | mk r t =>
    obtain ⟨_, consulted, -⟩ | ⟨provider, s₁, consulted, checks⟩ := bind_cases ran
    · obtain ⟨-, rfl⟩ := Prod.mk.inj consulted
      exact Kept.refl s
    · obtain ⟨-, rfl⟩ := Prod.mk.inj consulted
      obtain ⟨_, checked, -⟩ | ⟨_, s₂, checked, imports⟩ := bind_cases checks
      · rw [(readOnly_ensure _ _).state checked]
        exact Kept.refl s
      · obtain rfl := (readOnly_ensure _ _).state checked
        rw [read_bind] at imports
        obtain ⟨_, imported, -⟩ | ⟨done, t₁, imported, records⟩ := bind_cases imports
        · exact importUsers_kept imported
        · cases records
          obtain ⟨linked, holds, inactive⟩ := importUsers_kept imported
          exact ⟨linked, holds, inactive⟩

theorem sublist_of_mem {said : List Bool} (active : true ∈ said) (inactive : false ∈ said)
    (never : ¬[false, true].Sublist said) : [true, false].Sublist said := by
  induction said with
  | nil => cases active
  | cons first rest ih =>
    rw [List.cons_sublist_cons', List.singleton_sublist] at never ⊢
    cases first with
    | true => exact .inr ⟨rfl, by simpa using inactive⟩
    | false => exact (never (.inr ⟨rfl, by simpa using active⟩)).elim

theorem Effect.asDirected {given : ScimUserResource → String → Prop}
    {users : List ScimUserResource} {s t : Provisioning} {roleIds : ScimUserResource → List String}
    (effect : Effect tenantId providerId given users s t)
    (same : ∀ user role, role ∈ roleIds user ↔ given user role)
    (ordered : ∀ x, s.linkedTo tenantId providerId x = none →
      ¬[false, true].Sublist (flags users x))
    {user : ScimUserResource} (member : user ∈ users) :
    AsDirected tenantId providerId (roleIds user) t user where
  enrolled active := by
    obtain ⟨account, linked⟩ := Option.ne_none_iff_exists'.mp
      ((effect.linked_iff user.externalId).mpr (.inr (mem_flags.mpr ⟨user, member, rfl, active⟩)))
    exact ⟨account, linked, effect.present user member account linked, fun role asked =>
      (effect.holds_iff account role).mpr
        (.inr ⟨user, member, active, linked, (same user role).mp asked⟩)⟩
  departed inactive account linked := by
    refine ⟨effect.present user member account linked,
      effect.disabled user.externalId account linked ?_⟩
    have said : false ∈ flags users user.externalId := mem_flags.mpr ⟨user, member, rfl, inactive⟩
    by_cases before : s.linkedTo tenantId providerId user.externalId = none
    · -- the link is made by an active user of the import, which does not come after this one
      have made := (effect.linked_iff user.externalId).mp (by simp [linked])
      simp only [before, ne_eq, not_true_eq_false, false_or] at made
      exact .inr (sublist_of_mem made said (ordered _ before))
    · exact .inl ⟨before, said⟩

theorem link_again {given given' : ScimUserResource → String → Prop}
    {users : List ScimUserResource} {s t u : Provisioning} {x : String}
    (first : Effect tenantId providerId given users s t)
    (second : Effect tenantId providerId given' users t u)
    (links : ∀ account, t.linkedTo tenantId providerId x = some account →
      t.store.findUserLink tenantId providerId x =
        (users.filter fun user => user.externalId = x).foldl
          (relink lower tenantId providerId account) (s.store.findUserLink tenantId providerId x))
    (links' : ∀ account, u.linkedTo tenantId providerId x = some account →
      u.store.findUserLink tenantId providerId x =
        (users.filter fun user => user.externalId = x).foldl
          (relink lower tenantId providerId account)
          (t.store.findUserLink tenantId providerId x)) :
    u.store.findUserLink tenantId providerId x = t.store.findUserLink tenantId providerId x := by
  cases linked : t.linkedTo tenantId providerId x with
  | some account =>
    rw [links' account (second.linked_kept x account linked), links account linked]
    refine foldl_relink_twice (x := x) _ (fun user member => ?_) _
    simpa using (List.mem_filter.mp member).2
  | none =>
    have unlinked : u.linkedTo tenantId providerId x = none := by
      by_contra made
      obtain before | listed := (second.linked_iff x).mp made
      · exact before linked
      · exact (first.linked_iff x).mpr (.inr listed) linked
    rw [Option.map_eq_none_iff.mp linked, Option.map_eq_none_iff.mp unlinked]

theorem applyImport_follows {call : ImportCall} {s t : Provisioning} {result : ScimImportResult}
    (ran : applyImport lower tenantId providerId call s = (.ok result, t)) :
    Follows lower tenantId providerId call s t := by
  obtain ⟨provider, t₁, entry, enabled, imported, rfl⟩ := applyImport_ok.mp ran
  obtain ⟨effect, registry, others, links⟩ := importUsers_effect imported
  refine {
    linked := fun user member active => ?_
    disabled := effect.disabled
    unchanged := effect.unchanged
    holds_iff := fun account role => ?_
    again := fun ordered repeated same => ?_ }
  · obtain ⟨account, linked⟩ := Option.ne_none_iff_exists'.mp
      ((effect.linked_iff user.externalId).mpr (.inr (mem_flags.mpr ⟨user, member, rfl, active⟩)))
    exact ⟨account, linked, effect.present user member account linked⟩
  · simp only [← mem_roleIds entry]
    exact effect.holds_iff account role
  · have entry' : t₁.store.getProvider tenantId providerId = .ok provider := by
      rw [← entry]
      unfold InMemoryScimProvisioningStore.getProvider
      rw [registry.1]
    have mappings : t₁.store.listGroupRoleMappings tenantId providerId =
        s.store.listGroupRoleMappings tenantId providerId := by
      unfold InMemoryScimProvisioningStore.listGroupRoleMappings
      rw [registry.2]
    have asked (user : ScimUserResource) (role : String) :
        role ∈ repeated.roleIds provider (s.store.listGroupRoleMappings tenantId providerId) user ↔
          role ∈ call.roleIds provider (s.store.listGroupRoleMappings tenantId providerId) user := by
      rw [mem_roleIds entry, mem_roleIds entry, same]
    set t : Provisioning := { t₁ with store := t₁.store.recordImportResult {
      result with
      tenantId := tenantId
      importedByUserId := call.importedByUserId } } with recorded
    obtain ⟨done, u, ran', identity⟩ := importUsers_again lower (s := t)
      (fun user member => (effect.recorded _).asDirected asked ordered member)
      { providerId := providerId }
    refine ⟨done, _, applyImport_ok.mpr ⟨provider, u, entry', enabled, ?_, rfl⟩, identity, ?_⟩
    · rw [same]
      exact (congrArg (fun given => importUsers lower tenantId providerId repeated provider given
        { providerId := providerId } call.request.users t) mappings).trans ran'
    · intro key
      obtain ⟨effect', -, others', links'⟩ := importUsers_effect ran'
      by_cases ours : ∃ x, key = tenantItemKey tenantId providerId x
      · obtain ⟨x, rfl⟩ := ours
        change u.store.findUserLink tenantId providerId x = _
        exact link_again (effect.recorded _) effect' (links x) (links' x)
      · exact others' key fun x there => ours ⟨x, there⟩

/-- Every completed import of a sequence follows the directory as far as it goes, and no import
undoes what an earlier one has done. -/
theorem imports_follow_directory (lower : String → String) (tenantId providerId : String)
    (s : Provisioning) (calls : List ImportCall) :
    Machine.Along (step lower tenantId providerId)
        (fun s call t =>
          (∃ result, (applyImport lower tenantId providerId call s).1 = .ok result) →
            Follows lower tenantId providerId call s t) s calls ∧
      ∀ t, Machine.run (step lower tenantId providerId) s calls = some t →
        Kept tenantId providerId s t := by
  constructor
  · refine Machine.Along.mono ?_ (Machine.along_true _ s calls)
    rintro s call t moved - ⟨result, completed⟩
    cases moved
    exact applyImport_follows (Prod.ext completed rfl)
  · intro t ran
    refine Machine.relation_run Kept.refl (fun _ _ _ => Kept.trans) ?_ ran
    intro s call t moved
    cases moved
    exact applyImport_kept call s

end Imports

section Returning

/-- The accounts and the roles of the linked users of an import as the directory has them. -/
def Converged (tenantId providerId : String) (call : ImportCall) (s t : Provisioning) : Prop :=
  ∀ user ∈ call.request.users, ∀ account,
    t.linkedTo tenantId providerId user.externalId = some account →
      (t.status account = .active ↔ user.active = true) ∧
      ∀ role, (∃ request x, s.Gives tenantId providerId request x role) →
        (t.Holds tenantId account role ↔
          s.Gives tenantId providerId call.request user.externalId role)

def registered : Provisioning where
  identity := { roles := [("tenant_acme", "role_employee"), ("tenant_acme", "role_sales")] }
  store := {
    providers := Table.empty.put {
      tenantId := "tenant_acme"
      id := "okta_scim"
      defaultRoleIds := ["role_employee"]
      status := .enabled }
    groupRoleMappings := Table.empty.put {
      tenantId := "tenant_acme"
      providerId := "okta_scim"
      groupExternalId := "group_sales"
      roleIds := ["role_sales"] } }

def importOf (active : Bool) (groups : List String) : ImportCall where
  importedByUserId := "user_admin"
  request := { users := [{
    externalId := "scim_user_1"
    userName := "buyer@acme.com"
    active := active
    groups := groups
    emailSource := by decide }] }
  passwordHash := fun _ => "hash"
  order := ⟨id, fun _ => List.Perm.refl _⟩

def after (calls : List ImportCall) : Provisioning :=
  calls.foldl (fun s call => (applyImport id "tenant_acme" "okta_scim" call s).2) registered

/-- A user who has left and come back stays disabled, and one who has left a group keeps the role
of the group. -/
theorem returning_user_not_restored :
    ¬Machine.Along (step id "tenant_acme" "okta_scim")
        (fun s call t =>
          (∃ result, (applyImport id "tenant_acme" "okta_scim" call s).1 = .ok result) →
            Converged "tenant_acme" "okta_scim" call s t)
        registered [importOf true [], importOf false [], importOf true []] ∧
      ¬Machine.Along (step id "tenant_acme" "okta_scim")
        (fun s call t =>
          (∃ result, (applyImport id "tenant_acme" "okta_scim" call s).1 = .ok result) →
            Converged "tenant_acme" "okta_scim" call s t)
        registered [importOf true ["group_sales"], importOf true []] := by
  constructor
  · intro converges
    obtain ⟨-, converges⟩ := converges (after [importOf true []]) rfl
    obtain ⟨-, converges⟩ := converges (after [importOf true [], importOf false []]) rfl
    obtain ⟨converged, -⟩ :=
      converges (after [importOf true [], importOf false [], importOf true []]) rfl
    obtain ⟨enabled, -⟩ := converged ⟨{
      providerId := "okta_scim"
      usersSeen := 1 }, by decide⟩ _ List.mem_cons_self 0 (by decide)
    exact absurd (enabled.mpr rfl) (by decide)
  · intro converges
    obtain ⟨-, converges⟩ := converges (after [importOf true ["group_sales"]]) rfl
    obtain ⟨converged, -⟩ :=
      converges (after [importOf true ["group_sales"], importOf true []]) rfl
    obtain ⟨-, roles⟩ := converged ⟨{
      providerId := "okta_scim"
      usersSeen := 1 }, by decide⟩ _ List.mem_cons_self 0 (by decide)
    have entry : (after [importOf true ["group_sales"]]).store.getProvider "tenant_acme"
        "okta_scim" = .ok {
          tenantId := "tenant_acme"
          id := "okta_scim"
          defaultRoleIds := ["role_employee"]
          status := .enabled } := by decide
    have named : (after [importOf true ["group_sales"]]).Gives "tenant_acme" "okta_scim"
        (importOf true ["group_sales"]).request
        ((importOf true ["group_sales"]).request.users.head (by decide)).externalId
        "role_sales" := (mem_roleIds entry).mp (by decide)
    have held : (after [importOf true ["group_sales"], importOf true []]).Holds "tenant_acme" 0
        "role_sales" := holds_iff.mpr (by decide)
    exact absurd ((mem_roleIds entry).mpr ((roles "role_sales" ⟨_, _, named⟩).mp held))
      (by decide)

end Returning

end Taroai.Scim
