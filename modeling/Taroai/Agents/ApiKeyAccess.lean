import Taroai.Agents.ApiKeys
import Taroai.Lib.Json
import Taroai.Lib.Machine
import Mathlib.Data.Set.Function

/-! Who the API keys let in. The locator of a token carries its two ids where the tenant's is not
empty and free of NUL; the invariant ties each stored key to the token issued for it. -/

namespace Taroai.Agents

section Locators

variable (tenantId keyId : String) (drawn : List UInt8)

def Locatable (tenantId : String) : Prop := tenantId ≠ "" ∧ '\x00' ∉ tenantId.toList

instance : Decidable (Locatable tenantId) := inferInstanceAs (Decidable (_ ∧ _))

theorem toList_newToken : (newToken tenantId keyId drawn).toList =
    tokenMark ++ ((encodeLocator tenantId keyId).toList ++ '.' :: (tokenUrlsafe drawn).toList) := by
  simp only [newToken, String.toList_append, List.append_assoc]
  rfl

theorem tokenMark_newToken : tokenMark <+: (newToken tenantId keyId drawn).toList := by
  rw [toList_newToken]
  exact List.prefix_append _ _

theorem encoded_newToken :
    removeMark ((newToken tenantId keyId drawn).toList.takeWhile fun c => c ≠ '.') =
      (encodeLocator tenantId keyId).toList := by
  have marked : ∀ c ∈ tokenMark, decide (c ≠ '.') = true := List.all_eq_true.mp rfl
  have located : ∀ c ∈ (encodeLocator tenantId keyId).toList, decide (c ≠ '.') = true := by
    intro c member
    rw [encodeLocator, String.toList_ofList] at member
    exact decide_eq_true (Base64.encode_ne_dot _ c (Base64.strip_subset _ member))
  rw [toList_newToken, List.takeWhile_append_of_pos marked, List.takeWhile_append_of_pos located,
    List.takeWhile_cons_of_neg (by simp), List.append_nil, removeMark,
    if_pos (List.prefix_append _ _), List.drop_left]

theorem encodeLocator_ascii :
    ((encodeLocator tenantId keyId).toList.all fun c => c.toNat < 128) = true := by
  rw [List.all_eq_true, encodeLocator, String.toList_ofList]
  exact fun c member => decide_eq_true (Base64.encode_ascii _ c (Base64.strip_subset _ member))

theorem locatorIds_newToken : locatorIds (newToken tenantId keyId drawn) =
    (cutAt ['\x00'] (tenantId.toList ++ '\x00' :: keyId.toList)).bind fun ids =>
      if ids.1 = [] ∨ ids.2 = [] then none
      else some (String.ofList ids.1, String.ofList ids.2) := by
  have joined : (tenantId ++ "\x00" ++ keyId).toList = tenantId.toList ++ '\x00' :: keyId.toList := by
    simp only [String.toList_append, List.append_assoc]
    rfl
  have marked := tokenMark_newToken tenantId keyId drawn
  unfold locatorIds
  dsimp only
  rw [encoded_newToken, if_pos (encodeLocator_ascii tenantId keyId), encodeLocator,
    String.toList_ofList, Base64.pad_strip_encode, Base64.decode_encode]
  simp only [Option.bind_eq_bind, Option.bind_some, Base64.fromUTF8?_bytes, joined, marked,
    not_true_eq_false, or_false]

theorem decodeLocator_newToken {keyId : String} (nonempty : keyId ≠ "") :
    decodeLocator (newToken tenantId keyId drawn) = .ok (tenantId, keyId) ↔ Locatable tenantId := by
  have key_some : keyId.toList ≠ [] := fun empty => nonempty (String.toList_eq_nil_iff.mp empty)
  unfold decodeLocator
  rw [locatorIds_newToken]
  constructor
  · intro decoded
    cases cut : cutAt ['\x00'] (tenantId.toList ++ '\x00' :: keyId.toList) with
    | none =>
      rw [cut] at decoded
      cases decoded
    | some ids =>
      obtain ⟨front, back⟩ := ids
      rw [cut, Option.bind_some] at decoded
      by_cases refused : front = [] ∨ back = []
      · rw [if_pos refused] at decoded
        cases decoded
      · rw [if_neg refused] at decoded
        have same : (String.ofList front, String.ofList back) = (tenantId, keyId) :=
          Except.ok.inj decoded
        have fronts : front = tenantId.toList := by
          rw [← (Prod.mk.inj same).1, String.toList_ofList]
        rw [not_or, fronts] at refused
        refine ⟨fun empty => refused.1 (String.toList_eq_nil_iff.mpr empty), ?_⟩
        rw [← fronts]
        exact not_mem_of_cutAt cut
  · rintro ⟨some_tenant, free⟩
    have tenant_some : tenantId.toList ≠ [] :=
      fun empty => some_tenant (String.toList_eq_nil_iff.mp empty)
    rw [cutAt_char free, Option.bind_some, if_neg (not_or.mpr ⟨tenant_some, key_some⟩),
      String.ofList_toList, String.ofList_toList]

end Locators

namespace InMemoryAgentApiKeyStore

variable {store : InMemoryAgentApiKeyStore} {tenantId keyId : String}

theorem get_eq_ok {apiKey : AgentApiKey} :
    get store tenantId keyId = .ok apiKey ↔
      store.get? keyId = some apiKey ∧ apiKey.tenantId = tenantId := by
  unfold get
  cases store.get? keyId with
  | none => simp
  | some found =>
    dsimp only
    by_cases same : found.tenantId = tenantId
    · rw [if_neg (not_not.mpr same)]
      constructor
      · rintro ⟨⟩
        exact ⟨rfl, same⟩
      · rintro ⟨⟨⟩, -⟩
        rfl
    · rw [if_pos same]
      constructor
      · rintro ⟨⟩
      · rintro ⟨⟨⟩, own⟩
        exact absurd own same

theorem get_eq_error {error : ApiKeyError} (raised : get store tenantId keyId = .error error) :
    error = .notFound "Agent API key not found" := by
  unfold get at raised
  split at raised
  · cases raised
    rfl
  · split at raised <;> cases raised
    rfl

end InMemoryAgentApiKeyStore

theorem getUser_eq_ok {users : Table UserAccount.id} {tenantId userId : String}
    {account : UserAccount} : getUser users tenantId userId = .ok account ↔
      users.get? userId = some account ∧ account.tenantId = tenantId := by
  unfold getUser
  cases users.get? userId with
  | none => simp
  | some found =>
    dsimp only
    by_cases same : found.tenantId = tenantId
    · rw [if_neg (not_not.mpr same)]
      constructor
      · rintro ⟨⟩
        exact ⟨rfl, same⟩
      · rintro ⟨⟨⟩, -⟩
        rfl
    · rw [if_pos same]
      constructor
      · rintro ⟨⟩
      · rintro ⟨⟨⟩, own⟩
        exact absurd own same

def Belongs (users : Table UserAccount.id) (tenantId userId : String) : Prop :=
  ∀ account, users.get? userId = some account → account.tenantId = tenantId

theorem getUser_eq_error {users : Table UserAccount.id} {tenantId userId : String}
    (belongs : Belongs users tenantId userId) {error : ApiKeyError}
    (raised : getUser users tenantId userId = .error error) :
    error = .notFound s!"User not found: {userId}" := by
  unfold getUser at raised
  cases found : users.get? userId with
  | none =>
    rw [found] at raised
    cases raised
    rfl
  | some account =>
    rw [found] at raised
    dsimp only at raised
    rw [if_neg (not_not.mpr (belongs account found))] at raised
    cases raised

theorem Belongs.setUserStatus {users users' : Table UserAccount.id} {tenantId userId : String}
    (belongs : Belongs users tenantId userId) {tenantId' userId' : String}
    {status : Auth.UserAccountStatus} (set : setUserStatus users tenantId' userId' status = .ok users') :
    Belongs users' tenantId userId := by
  unfold Agents.setUserStatus at set
  obtain ⟨account, found, rfl⟩ := Json.except_map_ok.mp set
  obtain ⟨present, -⟩ := getUser_eq_ok.mp found
  intro other stored
  have own : account.id = userId' := Table.key_of_get? present
  rw [Table.get?_put] at stored
  split at stored
  · rename_i same
    cases stored
    exact belongs account (by rw [same, own, present])
  · exact belongs other stored

namespace AgentApiKeyService

section Keys

variable (hmac : String → String)

structure MadeFor (users : Table UserAccount.id) (apiKey : AgentApiKey) (token : String) : Prop where
  written : ∃ drawn, token = newToken apiKey.tenantId apiKey.id drawn
  hashed : apiKey.tokenHash = hash hmac token
  named : apiKey.id ≠ ""
  located : Locatable apiKey.tenantId
  creator : Belongs users apiKey.tenantId apiKey.createdByUserId

structure Bound (service : AgentApiKeyService) : Prop where
  token : ∀ apiKey ∈ service.store.entries, ∃ token, (apiKey.id, token) ∈ service.issued
  key : ∀ issued ∈ service.issued, ∃ apiKey, service.store.get? issued.1 = some apiKey ∧
    MadeFor hmac service.users apiKey issued.2

/-- Keys are created in tenants a locator can carry, by users of that tenant. -/
def Sound (service : AgentApiKeyService) : Call → Prop
  | .create tenantId userId _ _ _ _ => Locatable tenantId ∧ Belongs service.users tenantId userId
  | _ => True

variable {hmac} {service : AgentApiKeyService}

theorem Bound.stamped (bound : Bound hmac service) {old new : AgentApiKey} {keyId : String}
    (present : service.store.get? keyId = some old) (same_id : new.id = old.id)
    (same : ∀ token, MadeFor hmac service.users old token → MadeFor hmac service.users new token) :
    Bound hmac { service with store := service.store.put new } := by
  have own : old.id = keyId := Table.key_of_get? present
  constructor
  · intro apiKey member
    rcases Table.mem_put.mp member with rfl | ⟨member, -⟩
    · rw [same_id]
      exact bound.token old (Table.mem_of_get? present)
    · exact bound.token apiKey member
  · intro issued member
    obtain ⟨apiKey, found, made⟩ := bound.key issued member
    by_cases here : issued.1 = new.id
    · refine ⟨new, by rw [here]; exact Table.get?_put_self _ _, same _ ?_⟩
      rw [here, same_id, own, present] at found
      cases found
      exact made
    · refine ⟨apiKey, ?_, made⟩
      exact (Table.get?_put_ne _ _ here).trans found

theorem create_ok {tenantId userId : String} {payload : AgentApiKeyCreate} {keyId : String}
    {drawn : List UInt8} {now : Time} {apiKey : AgentApiKey} {token : String}
    (created : service.create hmac tenantId userId payload keyId drawn now = .ok (apiKey, token)) :
    token = newToken tenantId keyId drawn ∧ ∃ definition,
      apiKey = newKey hmac definition tenantId userId payload.name keyId token now := by
  obtain ⟨definition, -, created⟩ := Json.except_bind_ok.mp created
  dsimp only at created
  split at created
  · cases created
  · split at created
    · cases created
    · cases created
      exact ⟨rfl, definition, rfl⟩

theorem Bound.created (bound : Bound hmac service) {apiKey : AgentApiKey} {token : String}
    (fresh : service.store.get? apiKey.id = none) (made : MadeFor hmac service.users apiKey token) :
    Bound hmac { service with
      store := service.store.put apiKey
      issued := service.issued ++ [(apiKey.id, token)] } := by
  constructor
  · intro other member
    rcases Table.mem_put.mp member with rfl | ⟨member, -⟩
    · exact ⟨token, List.mem_append_right _ List.mem_cons_self⟩
    · obtain ⟨own, listed⟩ := bound.token other member
      exact ⟨own, List.mem_append_left _ listed⟩
  · intro issued member
    rcases List.mem_append.mp member with member | member
    · obtain ⟨other, found, own⟩ := bound.key issued member
      refine ⟨other, ?_, own⟩
      have apart : issued.1 ≠ apiKey.id := by
        intro same
        rw [same, fresh] at found
        cases found
      exact (Table.get?_put_ne _ _ apart).trans found
    · rw [List.mem_singleton] at member
      subst member
      exact ⟨apiKey, Table.get?_put_self _ _, made⟩

theorem keyId_nonempty (uuid : String) : "agent_key_" ++ uuid ≠ "" := by
  intro empty
  have nothing := congrArg String.toList empty
  rw [String.toList_append] at nothing
  exact List.append_ne_nil_of_left_ne_nil (by decide) _ nothing

theorem bound_step {service' : AgentApiKeyService} {call : Call} (bound : Bound hmac service)
    (sound : Sound service call) (moved : step hmac service call = some service') :
    Bound hmac service' := by
  cases call with
  | create tenantId userId payload uuid drawn now =>
    obtain ⟨located, creator⟩ := sound
    unfold step at moved
    dsimp only at moved
    split at moved
    · rename_i fresh
      split at moved
      · rename_i apiKey token created
        cases moved
        obtain ⟨token_eq, definition, rfl⟩ := create_ok created
        exact bound.created fresh
          { written := ⟨drawn, token_eq⟩
            hashed := rfl
            named := keyId_nonempty uuid
            located := located
            creator := creator }
      · cases moved
        exact bound
    · cases moved
  | revoke tenantId userId keyId now =>
    unfold step at moved
    dsimp only at moved
    split at moved
    · rename_i store revoked
      cases moved
      obtain ⟨apiKey, -, revoked⟩ := Json.except_bind_ok.mp revoked
      split at revoked
      · cases revoked
      · obtain ⟨old, found, rfl⟩ := Json.except_map_ok.mp revoked
        exact bound.stamped (InMemoryAgentApiKeyStore.get_eq_ok.mp found).1 rfl fun token made =>
          ⟨made.written, made.hashed, made.named, made.located, made.creator⟩
    · cases moved
      exact bound
  | recordUse apiKey now =>
    unfold step at moved
    dsimp only at moved
    split at moved
    · rename_i store touched
      cases moved
      obtain ⟨old, found, rfl⟩ := Json.except_map_ok.mp touched
      exact bound.stamped (InMemoryAgentApiKeyStore.get_eq_ok.mp found).1 rfl fun token made =>
        ⟨made.written, made.hashed, made.named, made.located, made.creator⟩
    · cases moved
      exact bound
  | setUserStatus tenantId userId status =>
    unfold step at moved
    dsimp only at moved
    split at moved
    · rename_i users set
      cases moved
      refine ⟨bound.token, fun issued member => ?_⟩
      obtain ⟨apiKey, found, made⟩ := bound.key issued member
      exact ⟨apiKey, found, made.written, made.hashed, made.named, made.located,
        made.creator.setUserStatus set⟩
    · cases moved
      exact bound
  | register agents =>
    cases moved
    exact ⟨bound.token, bound.key⟩

theorem bound_run {service' : AgentApiKeyService} {history : List Call} (bound : Bound hmac service)
    (sound : Machine.Conforms (step hmac) Sound service history)
    (ran : Machine.run (step hmac) service history = some service') : Bound hmac service' :=
  Machine.invariant_conforms (fun _ _ _ => bound_step) bound sound ran

end Keys

section Access

variable (hmac : String → String) (lower : String → String)

/-- When a header lets its sender in with a key: it is a bearer of the token issued for the key,
which is for the agent and not revoked, and the account of its creator is active. -/
def Grants (service : AgentApiKeyService) (authorization : Option String) (agentId : String)
    (apiKey : AgentApiKey) : Prop :=
  apiKey ∈ service.store.entries ∧
  (∃ token, bearerToken lower authorization = some token ∧ (apiKey.id, token) ∈ service.issued) ∧
  apiKey.agentId = agentId ∧ apiKey.revokedAt = none ∧
  ∃ account, service.users.get? apiKey.createdByUserId = some account ∧ account.status = .active

def Exact (service : AgentApiKeyService) (authorization : Option String) (agentId : String) : Prop :=
  (∀ apiKey, service.authenticate hmac lower authorization agentId = .ok apiKey ↔
    service.Grants lower authorization agentId apiKey) ∧
  ∀ error, service.authenticate hmac lower authorization agentId = .error error →
    ∃ message, error = .authRequired message

variable {hmac} {lower} {service : AgentApiKeyService} {authorization : Option String}
  {agentId : String}

theorem hash_injOn {used : Set String} (injective : Set.InjOn hmac used) :
    Set.InjOn (hash hmac) used := by
  intro a inside b inside' same
  refine injective inside inside' ?_
  have bodies := congrArg String.toList same
  rw [hash, hash, String.toList_append, String.toList_append, List.append_cancel_left_eq] at bodies
  exact String.toList_inj.mp bodies

theorem lookup_ok {tenantId keyId : String} {apiKey : AgentApiKey} {account : UserAccount} :
    service.lookup tenantId keyId = .ok (apiKey, account) ↔
      service.store.get? keyId = some apiKey ∧ apiKey.tenantId = tenantId ∧
      service.users.get? apiKey.createdByUserId = some account ∧
      account.tenantId = apiKey.tenantId := by
  unfold lookup
  constructor
  · intro found
    obtain ⟨key', got, found⟩ := Json.except_bind_ok.mp found
    obtain ⟨account', user, same⟩ := Json.except_map_ok.mp found
    cases same
    obtain ⟨present, own⟩ := InMemoryAgentApiKeyStore.get_eq_ok.mp got
    obtain ⟨there, belongs⟩ := getUser_eq_ok.mp user
    exact ⟨present, own, there, belongs⟩
  · rintro ⟨present, own, there, belongs⟩
    refine Json.except_bind_ok.mpr ⟨apiKey, InMemoryAgentApiKeyStore.get_eq_ok.mpr ⟨present, own⟩, ?_⟩
    exact Json.except_map_ok.mpr ⟨account, getUser_eq_ok.mpr ⟨there, belongs⟩, rfl⟩

theorem Bound.lookup_error (bound : Bound hmac service) {tenantId keyId : String}
    {error : ApiKeyError} (raised : service.lookup tenantId keyId = .error error) :
    caught error = .authRequired "Invalid Agent API key" := by
  unfold lookup at raised
  cases got : InMemoryAgentApiKeyStore.get service.store tenantId keyId with
  | error inner =>
    rw [got] at raised
    cases raised
    rw [InMemoryAgentApiKeyStore.get_eq_error got]
    rfl
  | ok apiKey =>
    rw [got] at raised
    obtain ⟨present, -⟩ := InMemoryAgentApiKeyStore.get_eq_ok.mp got
    obtain ⟨token, listed⟩ := bound.token apiKey (Table.mem_of_get? present)
    obtain ⟨other, found, made⟩ := bound.key _ listed
    have own : apiKey.id = keyId := Table.key_of_get? present
    rw [own, present] at found
    cases found
    cases user : getUser service.users apiKey.tenantId apiKey.createdByUserId with
    | error inner =>
      simp only [Except.bind, user, Except.map] at raised
      cases raised
      rw [getUser_eq_error made.creator user]
      rfl
    | ok account =>
      simp only [Except.bind, user, Except.map] at raised
      cases raised

theorem authenticate_ok {apiKey : AgentApiKey} :
    service.authenticate hmac lower authorization agentId = .ok apiKey ↔
      ∃ token tenantId keyId account, bearerToken lower authorization = some token ∧
        decodeLocator token = .ok (tenantId, keyId) ∧
        service.lookup tenantId keyId = .ok (apiKey, account) ∧
        ¬(apiKey.agentId ≠ agentId ∨ apiKey.revokedAt ≠ none ∨ account.status ≠ .active ∨
          apiKey.tokenHash ≠ hash hmac token) := by
  unfold authenticate
  cases bearer : bearerToken lower authorization with
  | none => simp
  | some token =>
    dsimp only
    cases decoded : decodeLocator token with
    | error error => simp [Except.bind, decoded]
    | ok ids =>
      obtain ⟨tenantId, keyId⟩ := ids
      cases found : service.lookup tenantId keyId with
      | error error =>
        constructor
        · intro accepted
          simp only [Except.bind, found, Except.mapError] at accepted
          cases accepted
        · rintro ⟨token', tenantId', keyId', account, same, decoded', found', -⟩
          cases same
          rw [decoded] at decoded'
          cases decoded'
          rw [found] at found'
          cases found'
      | ok pair =>
        obtain ⟨key', account'⟩ := pair
        simp only [Except.bind, found, Except.mapError]
        constructor
        · intro accepted
          split at accepted
          · cases accepted
          · rename_i passed
            cases accepted
            exact ⟨token, tenantId, keyId, account', rfl, decoded, found, passed⟩
        · rintro ⟨token', tenantId', keyId', account, same, decoded', found', passed⟩
          cases same
          rw [decoded] at decoded'
          cases decoded'
          rw [found] at found'
          cases found'
          exact if_neg passed

theorem Bound.authenticate_error (bound : Bound hmac service) {error : ApiKeyError}
    (raised : service.authenticate hmac lower authorization agentId = .error error) :
    ∃ message, error = .authRequired message := by
  unfold authenticate at raised
  split at raised
  · cases raised
    exact ⟨_, rfl⟩
  · rename_i token bearer
    cases ids : locatorIds token with
    | none =>
      simp only [decodeLocator, ids, Except.bind] at raised
      cases raised
      exact ⟨_, rfl⟩
    | some pair =>
      obtain ⟨tenantId, keyId⟩ := pair
      simp only [decodeLocator, ids, Except.bind] at raised
      cases found : service.lookup tenantId keyId with
      | error inner =>
        simp only [found, Except.mapError] at raised
        cases raised
        exact ⟨_, bound.lookup_error found⟩
      | ok pair =>
        simp only [found, Except.mapError] at raised
        split at raised
        · cases raised
          exact ⟨_, rfl⟩
        · cases raised

theorem Bound.issued (bound : Bound hmac service) {apiKey : AgentApiKey} {token : String}
    (member : apiKey ∈ service.store.entries) (listed : (apiKey.id, token) ∈ service.issued) :
    MadeFor hmac service.users apiKey token := by
  obtain ⟨other, found, made⟩ := bound.key _ listed
  rw [Table.get?_of_mem member] at found
  cases found
  exact made

theorem Bound.authenticate_iff (bound : Bound hmac service) {used : Set String}
    (injective : Set.InjOn hmac used) (issued : ∀ pair ∈ service.issued, pair.2 ∈ used)
    (presented : ∀ token ∈ bearerToken lower authorization, token ∈ used) (apiKey : AgentApiKey) :
    service.authenticate hmac lower authorization agentId = .ok apiKey ↔
      service.Grants lower authorization agentId apiKey := by
  rw [authenticate_ok]
  constructor
  · rintro ⟨token, tenantId, keyId, account, bearer, -, found, passed⟩
    simp only [not_or, not_not] at passed
    obtain ⟨agent, unrevoked, active, hashed⟩ := passed
    obtain ⟨present, -, there, -⟩ := lookup_ok.mp found
    have member : apiKey ∈ service.store.entries := Table.mem_of_get? present
    obtain ⟨own, listed⟩ := bound.token apiKey member
    have made := bound.issued member listed
    have same : own = token := hash_injOn injective (issued _ listed) (presented _ bearer)
      (made.hashed.symm.trans hashed)
    exact ⟨member, ⟨token, bearer, same ▸ listed⟩, agent, unrevoked, account, there, active⟩
  · rintro ⟨member, ⟨token, bearer, listed⟩, agent, unrevoked, account, there, active⟩
    have made := bound.issued member listed
    obtain ⟨drawn, written⟩ := made.written
    refine ⟨token, apiKey.tenantId, apiKey.id, account, bearer, ?_, ?_, ?_⟩
    · rw [written]
      exact (decodeLocator_newToken _ _ made.named).mpr made.located
    · exact lookup_ok.mpr ⟨Table.get?_of_mem member, rfl, there, made.creator account there⟩
    · simp only [not_or, not_not]
      exact ⟨agent, unrevoked, active, made.hashed⟩

/-- In every history whose keys are created in tenants a locator can carry, by users whose account
is in no other tenant, authentication is exact and closed, where the hash is injective on the
tokens issued and presented. A token gives back its tenant and key exactly where the tenant's id is
not empty and has no NUL. -/
theorem authenticate_exact (hmac : String → String) (lower : String → String)
    (agents : List RegisteredAgent) (users : Table UserAccount.id) :
    (∀ (history : List Call) (service : AgentApiKeyService) (used : Set String)
        (authorization : Option String) (agentId : String),
      Machine.Conforms (step hmac) Sound { agents := agents, users := users } history →
      Machine.run (step hmac) { agents := agents, users := users } history = some service →
      Set.InjOn hmac used → (∀ pair ∈ service.issued, pair.2 ∈ used) →
      (∀ token ∈ bearerToken lower authorization, token ∈ used) →
      service.Exact hmac lower authorization agentId) ∧
    ∀ (tenantId uuid : String) (drawn : List UInt8),
      decodeLocator (newToken tenantId ("agent_key_" ++ uuid) drawn) =
        .ok (tenantId, "agent_key_" ++ uuid) ↔ Locatable tenantId := by
  refine ⟨?_, fun tenantId uuid drawn => decodeLocator_newToken _ _ (keyId_nonempty uuid)⟩
  intro history service used authorization agentId sound ran injective issued presented
  have start : Bound hmac { agents := agents, users := users } :=
    ⟨fun _ member => absurd member List.not_mem_nil, fun _ member => absurd member List.not_mem_nil⟩
  have bound := bound_run start sound ran
  exact ⟨bound.authenticate_iff injective issued presented, fun _ => bound.authenticate_error⟩

theorem bearerToken_bearer {token : String} (nonempty : token ≠ "") :
    bearerToken id (some ("bearer " ++ token)) = some token := by
  have split : ("bearer " ++ token).toList = "bearer".toList ++ ' ' :: token.toList := by
    rw [String.toList_append]
    rfl
  have some_token : token.toList ≠ [] := fun empty => nonempty (String.toList_eq_nil_iff.mp empty)
  have free : ' ' ∉ "bearer".toList := by decide
  unfold bearerToken
  dsimp only
  rw [Option.getD_some, split, cutAt_char free, Option.getD_some]
  dsimp only
  rw [id, String.ofList_toList, if_neg (not_or.mpr ⟨not_not.mpr rfl, some_token⟩),
    String.ofList_toList]

theorem newToken_nonempty (tenantId keyId : String) (drawn : List UInt8) :
    newToken tenantId keyId drawn ≠ "" := by
  intro empty
  have marked := tokenMark_newToken tenantId keyId drawn
  rw [empty] at marked
  exact absurd (List.prefix_nil.mp marked) (by decide)

end Access

section Opened

variable (users : Table UserAccount.id) (tenantId : String)

def app : RegisteredAgent where
  id := "app"
  tenantId := tenantId
  workspaceId := "ws"
  createdByUserId := "ada"
  latestVersion := 1
  publishedVersion := some 1

def openedToken : String := newToken tenantId "agent_key_0" []

theorem bearerToken_opened :
    bearerToken id (some ("bearer " ++ openedToken tenantId)) = some (openedToken tenantId) :=
  bearerToken_bearer (newToken_nonempty _ _ _)

def openedKey : AgentApiKey :=
  newKey id (app tenantId) tenantId "ada" "ci" "agent_key_0" (openedToken tenantId) 0

def opened : AgentApiKeyService where
  agents := [app tenantId]
  users := users
  store := Table.empty.put (openedKey tenantId)
  issued := [("agent_key_0", openedToken tenantId)]

def opening : Call := .create tenantId "ada" ⟨"ci", "app"⟩ "0" [] 0

theorem run_opening : Machine.run (step id) { agents := [app tenantId], users := users }
    [opening tenantId] = some (opened users tenantId) := by
  have fresh : (Table.empty : InMemoryAgentApiKeyStore).get? ("agent_key_" ++ "0") = none := rfl
  have found : agent { agents := [app tenantId], users := users } tenantId "app" =
      .ok (app tenantId) := by
    simp [agent, app]
  have made : create id { agents := [app tenantId], users := users } tenantId "ada" ⟨"ci", "app"⟩
      ("agent_key_" ++ "0") [] 0 = .ok (openedKey tenantId, openedToken tenantId) := by
    unfold create
    rw [found]
    rfl
  simp only [Machine.run, opening, step, fresh, made]
  rfl

variable {users} {tenantId}

theorem opened_grants {account : UserAccount} (there : users.get? "ada" = some account)
    (active : account.status = .active) :
    (opened users tenantId).Grants id (some ("bearer " ++ openedToken tenantId)) "app"
      (openedKey tenantId) :=
  ⟨Table.mem_put.mpr (Or.inl rfl),
    ⟨openedToken tenantId, bearerToken_opened tenantId, List.mem_cons_self⟩,
    rfl, rfl, account, there, active⟩

theorem opened_refused (unlocated : ¬Locatable tenantId) {apiKey : AgentApiKey} :
    (opened users tenantId).authenticate id id (some ("bearer " ++ openedToken tenantId)) "app" ≠
      .ok apiKey := by
  intro accepted
  obtain ⟨token, tenant, keyId, account, bearer, decoded, found, -⟩ := authenticate_ok.mp accepted
  rw [bearerToken_opened] at bearer
  cases bearer
  obtain ⟨present, own, -⟩ := lookup_ok.mp found
  have only : apiKey = openedKey tenantId := by
    rcases Table.mem_put.mp (Table.mem_of_get? present) with same | ⟨member, -⟩
    · exact same
    · exact absurd member List.not_mem_nil
  have named : apiKey.id = keyId := Table.key_of_get? present
  rw [← own, ← named, only] at decoded
  exact unlocated ((decodeLocator_newToken _ _ (by decide)).mp decoded)

def ada (tenantId : String) : Table UserAccount.id :=
  Table.empty.put ⟨"ada", tenantId, .active⟩

theorem ada_stored (tenantId : String) :
    (ada tenantId).get? "ada" = some ⟨"ada", tenantId, .active⟩ :=
  Table.get?_put_self Table.empty (⟨"ada", tenantId, .active⟩ : UserAccount)

theorem authenticate_exact_acme :
    (opened (ada "acme") "acme").Exact id id (some ("bearer " ++ openedToken "acme")) "app" := by
  have sound : Machine.Conforms (step id) Sound
      { agents := [app "acme"], users := ada "acme" } [opening "acme"] := by
    refine fun _ _ => ⟨⟨by decide, fun account there => ?_⟩, trivial⟩
    rw [ada_stored] at there
    cases there
    rfl
  exact (authenticate_exact id id [app "acme"] (ada "acme")).1 [opening "acme"] _ Set.univ _ "app"
    sound (run_opening _ _) (Set.injOn_id _) (fun _ _ => trivial) (fun _ _ => trivial)

/-- The key of a tenant whose id has a NUL lets nobody in, and neither does one of the tenant whose
id is empty; where the creator's account is in another tenant, another error is raised. -/
theorem nul_in_tenant :
    Machine.run (step id) { agents := [app "a\x00b"], users := ada "a\x00b" } [opening "a\x00b"] =
      some (opened (ada "a\x00b") "a\x00b") ∧
    ¬(opened (ada "a\x00b") "a\x00b").Exact id id (some ("bearer " ++ openedToken "a\x00b")) "app" ∧
    decodeLocator (openedToken "a\x00b") ≠ .ok ("a\x00b", "agent_key_0") ∧
    decodeLocator (openedToken "") ≠ .ok ("", "agent_key_0") ∧
    (opened (ada "other") "acme").authenticate id id (some ("bearer " ++ openedToken "acme")) "app" =
      .error (.tenantAccess "User ada is not in tenant acme") := by
  have unlocated : ¬Locatable "a\x00b" := by decide
  refine ⟨run_opening _ _, ?_, ?_, ?_, ?_⟩
  · intro exact_
    exact opened_refused unlocated ((exact_.1 _).mpr (opened_grants (ada_stored _) rfl))
  · exact fun decoded => unlocated ((decodeLocator_newToken _ _ (by decide)).mp decoded)
  · exact fun decoded => absurd ((decodeLocator_newToken _ _ (by decide)).mp decoded) (by decide)
  · have decoded : decodeLocator (openedToken "acme") = .ok ("acme", "agent_key_0") :=
      (decodeLocator_newToken _ _ (by decide)).mpr (by decide)
    unfold authenticate
    rw [bearerToken_opened]
    dsimp only
    rw [decoded]
    rfl

end Opened

end AgentApiKeyService

end Taroai.Agents
