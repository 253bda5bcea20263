import Taroai.Connectors.OAuth
import Taroai.Lib.Machine

/-! The two tokens of a connector are stored one after the other, by calls that know nothing of
each other. They stay together as long as no call stops between its two stores, and none stores
its refresh token after the call whose access token is there has stored its own. A state is
consumed once, for the connector it was issued for and in time, whatever the calls do. -/

namespace Taroai.Connectors.OAuth

namespace ConnectorOAuthService

/-- The access token of the connector is that of a call that has its refresh token still to
store. -/
def Storing (connector : ConnectorDefinition) (s : ConnectorOAuthService) : Prop :=
  ∃ i call response, s.calls[i]? = some call ∧ call.progress = .accessStored response ∧
    (s.values connector.oauth2.accessTokenSecretRefId).response = some i

def Idle (s : ConnectorOAuthService) : Prop := ∀ call ∈ s.calls, ¬call.InProgress

def Paired (connector : ConnectorDefinition) (s : ConnectorOAuthService) : Prop :=
  ∀ refreshRef, connector.oauth2.refreshTokenSecretRefId = some refreshRef →
    (s.values connector.oauth2.accessTokenSecretRefId).response = (s.values refreshRef).response

/-- What every callback with an accepted state has, and that no state is accepted twice. -/
structure Authorized (s : ConnectorOAuthService) : Prop where
  accepted : ∀ (i : Nat) (call : TokenCall), s.calls[i]? = some call →
    ∀ state, call.kind = .completeCallback state →
    ∀ acceptedAt, call.acceptedAt = some acceptedAt →
      ∃ session, s.issued[state]? = some session ∧
        session.tenantId = call.connector.tenantId ∧
        session.workspaceId = call.connector.workspaceId ∧
        session.connectorId = call.connector.id ∧ acceptedAt < session.expiresAt
  once : ∀ (i j : Nat) (call other : TokenCall), s.calls[i]? = some call → s.calls[j]? = some other →
    ∀ state, call.kind = .completeCallback state → other.kind = .completeCallback state →
      call.acceptedAt.isSome = true → other.acceptedAt.isSome = true → i = j
  needed : ∀ (i : Nat) (call : TokenCall), s.calls[i]? = some call → ∀ state, call.kind = .completeCallback state →
    call.progress ≠ .started → call.progress ≠ .raised → call.acceptedAt.isSome = true

end ConnectorOAuthService

def OnOne (connector : ConnectorDefinition) : Label → Prop
  | .call other _ => other = connector
  | .answer _ response => response.refreshToken.isSome = true
  | _ => True

/-- No call stores its refresh token when the call whose access token is there is through with its
own, and no call fails between its two stores while its access token is there. -/
def Together (connector : ConnectorDefinition) (s : ConnectorOAuthService) : Label → Prop
  | .advance i => ∀ call response, s.calls[i]? = some call →
      call.progress = .accessStored response → s.Storing connector
  | .fail i => ∀ call response, s.calls[i]? = some call →
      call.progress = .accessStored response →
        (s.values connector.oauth2.accessTokenSecretRefId).response ≠ some i
  | _ => True

section Moves

open ConnectorOAuthService

inductive Moved (s : ConnectorOAuthService) : Label → ConnectorOAuthService → Prop
  | aside (label : Label) (t : ConnectorOAuthService) (calls : t.calls = s.calls)
      (values : t.values = s.values) : Moved s label t
  | called (connector : ConnectorDefinition) (kind : CallKind) (t : ConnectorOAuthService)
      (calls : t.calls = s.calls ++ [{ connector := connector, kind := kind }])
      (values : t.values = s.values) : Moved s (.call connector kind) t
  | proceeded (label : Label) (i : Nat) (call next : TokenCall) (t : ConnectorOAuthService)
      (here : s.calls[i]? = some call) (calls : t.calls = s.calls.set i next)
      (values : t.values = s.values) (connector : next.connector = call.connector)
      (before : ∀ response, call.progress ≠ .accessStored response)
      (after : ∀ response, next.progress ≠ .accessStored response)
      (answered : ∀ response, next.progress = .answered response → label = .answer i response) :
      Moved s label t
  | accessStored (i : Nat) (call : TokenCall) (response : OAuthTokenResponse)
      (here : s.calls[i]? = some call) (progress : call.progress = .answered response) :
      Moved s (.advance i) ((s.rotateSecretValue call.connector.oauth2.accessTokenSecretRefId
        ⟨response.accessToken, some i⟩).putCall i { call with progress := .accessStored response })
  | refreshStored (i : Nat) (call : TokenCall) (response : OAuthTokenResponse)
      (here : s.calls[i]? = some call) (progress : call.progress = .accessStored response) :
      Moved s (.advance i) ((s.storeRefreshToken i call.connector response).putCall i
        { call with progress := .returned })
  | failed (i : Nat) (call : TokenCall) (here : s.calls[i]? = some call) :
      Moved s (.fail i) (s.putCall i { call with progress := .raised })

theorem moved_of_step {s t : ConnectorOAuthService} {label : Label}
    (moved : step s label = some t) : Moved s label t := by
  cases label with
  | issue connector requestedByUserId =>
    cases moved
    exact .aside _ _ rfl rfl
  | pendingAuthorization state =>
    cases moved
    unfold pendingAuthorization
    split
    · exact .aside _ _ rfl rfl
    · split <;> exact .aside _ _ rfl rfl
  | drop state =>
    cases moved
    exact .aside _ _ rfl rfl
  | call connector kind =>
    cases moved
    exact .called _ _ _ rfl rfl
  | wait duration =>
    cases moved
    exact .aside _ _ rfl rfl
  | answer i response =>
    obtain ⟨call, here, answers⟩ := Option.bind_eq_some_iff.mp moved
    unfold ConnectorOAuthService.answer at answers
    have waits : (∀ other, call.progress ≠ .accessStored other) ∧
        t = s.putCall i { call with progress := .answered response } := by
      split at answers <;> cases answers <;> simp [*]
    obtain ⟨before, rfl⟩ := waits
    refine .proceeded _ i call _ _ here rfl rfl rfl before ?_ ?_
    · exact fun _ => Progress.noConfusion
    · rintro other ⟨⟩
      rfl
  | fail i =>
    obtain ⟨call, here, fails⟩ := Option.bind_eq_some_iff.mp moved
    split at fails
    · cases fails
      exact .failed i call here
    · cases fails
  | advance i =>
    obtain ⟨call, here, advances⟩ := Option.bind_eq_some_iff.mp moved
    unfold ConnectorOAuthService.advance at advances
    split at advances
    · next began =>
      have before (response : OAuthTokenResponse) : call.progress ≠ .accessStored response := by
        simp [began]
      split at advances
      · split at advances <;> cases advances <;>
          exact .proceeded _ i call _ _ here rfl rfl rfl before
            (fun _ => Progress.noConfusion) (fun _ other => nomatch other)
      · split at advances <;> cases advances <;>
          exact .proceeded _ i call _ _ here rfl rfl rfl before
            (fun _ => Progress.noConfusion) (fun _ other => nomatch other)
    · next response progress =>
      cases advances
      exact .accessStored i call response here progress
    · next response progress =>
      cases advances
      exact .refreshStored i call response here progress
    all_goals cases advances

end Moves

section Pair

open ConnectorOAuthService

variable {connector : ConnectorDefinition} {refreshRef : String} {s t : ConnectorOAuthService}

/-- Either the call whose access token is stored will store its refresh token, or the tokens are
those of one response. -/
structure Pairing (connector : ConnectorDefinition) (refreshRef : String)
    (s : ConnectorOAuthService) : Prop where
  own : ∀ call ∈ s.calls, call.connector = connector
  both : ∀ call ∈ s.calls, ∀ response,
    call.progress = .answered response ∨ call.progress = .accessStored response →
      response.refreshToken.isSome = true
  pair : s.Storing connector ∨
    (s.values connector.oauth2.accessTokenSecretRefId).response = (s.values refreshRef).response

theorem own_set {calls : List TokenCall} {i : Nat} {call next : TokenCall}
    (own : ∀ call ∈ calls, call.connector = connector) (here : calls[i]? = some call)
    (same : next.connector = call.connector) :
    ∀ call ∈ calls.set i next, call.connector = connector := by
  intro other member
  obtain old | rfl := List.mem_or_eq_of_mem_set member
  · exact own other old
  · exact same.trans (own call (List.mem_of_getElem? here))

theorem both_set {calls : List TokenCall} {i : Nat} {next : TokenCall}
    (both : ∀ call ∈ calls, ∀ response,
      call.progress = .answered response ∨ call.progress = .accessStored response →
        response.refreshToken.isSome = true)
    (through : ∀ response,
      ¬(next.progress = .answered response ∨ next.progress = .accessStored response)) :
    ∀ call ∈ calls.set i next, ∀ response,
      call.progress = .answered response ∨ call.progress = .accessStored response →
        response.refreshToken.isSome = true := by
  intro other member response progress
  obtain old | rfl := List.mem_or_eq_of_mem_set member
  · exact both other old response progress
  · exact (through response progress).elim

theorem Pairing.moved (has : connector.oauth2.refreshTokenSecretRefId = some refreshRef)
    (apart : connector.oauth2.accessTokenSecretRefId ≠ refreshRef) {label : Label}
    (pairing : Pairing connector refreshRef s) (one : OnOne connector label)
    (together : Together connector s label) (moved : Moved s label t) :
    Pairing connector refreshRef t := by
  obtain ⟨own, both, pair⟩ := pairing
  cases moved with
  | aside _ _ calls values =>
    refine ⟨by rwa [calls], by rwa [calls], ?_⟩
    simpa only [Storing, calls, values] using pair
  | called other kind _ calls values =>
    obtain rfl : other = connector := one
    refine ⟨?_, ?_, ?_⟩
    · rw [calls]
      simpa [or_imp, forall_and] using own
    · rw [calls]
      intro call member response progress
      obtain old | new := List.mem_append.mp member
      · exact both call old response progress
      · rw [List.mem_singleton.mp new] at progress
        cases progress <;> contradiction
    · rw [values]
      refine pair.imp_left ?_
      rintro ⟨i, call, response, here, progress, stored⟩
      refine ⟨i, call, response, ?_, progress, by rwa [values]⟩
      rw [calls, List.getElem?_append_left (List.getElem?_eq_some_iff.mp here).1]
      exact here
  | proceeded _ i call next _ here calls values same before after answered =>
    refine ⟨?_, ?_, ?_⟩
    · rw [calls]
      exact own_set own here same
    · rw [calls]
      intro other member response progress
      obtain old | rfl := List.mem_or_eq_of_mem_set member
      · exact both other old response progress
      · obtain answers | stored := progress
        · rw [answered response answers] at one
          exact one
        · exact (after response stored).elim
    · rw [values]
      refine pair.imp_left ?_
      rintro ⟨j, other, response, there, progress, stored⟩
      refine ⟨j, other, response, ?_, progress, by rwa [values]⟩
      rw [calls, List.getElem?_set_ne]
      · exact there
      · rintro rfl
        obtain rfl := Option.some.inj (here.symm.trans there)
        exact before response progress
  | accessStored i call response here progress =>
    refine ⟨own_set own here rfl, ?_, .inl ?_⟩
    · intro other member response' progress'
      obtain old | rfl := List.mem_or_eq_of_mem_set member
      · exact both other old response' progress'
      · obtain answers | ⟨⟨⟩⟩ := progress'
        · cases answers
        · exact both call (List.mem_of_getElem? here) response (.inl progress)
    · refine ⟨i, _, response, List.getElem?_set_self (List.getElem?_eq_some_iff.mp here).1, rfl, ?_⟩
      rw [own call (List.mem_of_getElem? here)]
      exact congrArg StoredSecret.response (if_pos rfl)
  | refreshStored i call response here progress =>
    have mine := own call (List.mem_of_getElem? here)
    obtain ⟨refreshToken, carried⟩ := Option.isSome_iff_exists.mp
      (both call (List.mem_of_getElem? here) response (.inr progress))
    have stores : s.storeRefreshToken i call.connector response =
        s.rotateSecretValue refreshRef ⟨refreshToken, some i⟩ := by
      unfold storeRefreshToken
      rw [mine, has, carried]
    obtain ⟨j, other, response', there, progress', stored⟩ := together call response here progress
    rw [stores]
    refine ⟨own_set own here rfl, both_set both (fun _ => nofun), ?_⟩
    have access : (if connector.oauth2.accessTokenSecretRefId = refreshRef then
        ⟨refreshToken, some i⟩ else s.values connector.oauth2.accessTokenSecretRefId) =
        s.values connector.oauth2.accessTokenSecretRefId := if_neg apart
    by_cases same : j = i
    · -- the access token is its own
      subst same
      refine .inr ?_
      change (if _ then _ else _ : StoredSecret).response = (if _ then _ else _ : StoredSecret).response
      rw [access, if_pos rfl, stored]
    · refine .inl ⟨j, other, response', ?_, progress', ?_⟩
      · exact (List.getElem?_set_ne (Ne.symm same)).trans there
      · change (if _ then _ else _ : StoredSecret).response = _
        rw [access, stored]
  | failed i call here =>
    refine ⟨own_set own here rfl, both_set both (fun _ => nofun), ?_⟩
    refine pair.imp_left ?_
    rintro ⟨j, other, response, there, progress, stored⟩
    refine ⟨j, other, response, ?_, progress, stored⟩
    refine (List.getElem?_set_ne ?_).trans there
    rintro rfl
    obtain rfl := Option.some.inj (here.symm.trans there)
    exact together call response here progress stored

end Pair

section States

open ConnectorOAuthService

variable {s t : ConnectorOAuthService}

inductive Consumes (s : ConnectorOAuthService) : ConnectorOAuthService → Prop
  | aside (t : ConnectorOAuthService) (more : List OAuthAuthorizationSession)
      (calls : t.calls = s.calls) (issued : t.issued = s.issued ++ more)
      (pending : ∀ state ∈ t.pendingStates, state ∈ s.pendingStates ∨
        s.issued.length ≤ state ∧ state < t.issued.length) : Consumes s t
  | called (connector : ConnectorDefinition) (kind : CallKind) :
      Consumes s { s with calls := s.calls ++ [{ connector := connector, kind := kind }] }
  | went (t : ConnectorOAuthService) (i : Nat) (call next : TokenCall)
      (here : s.calls[i]? = some call) (calls : t.calls = s.calls.set i next)
      (issued : t.issued = s.issued) (pending : t.pendingStates ⊆ s.pendingStates)
      (kind : next.kind = call.kind) (connector : next.connector = call.connector)
      (acceptedAt : next.acceptedAt = call.acceptedAt)
      (progress : next.progress = .raised ∨ call.kind = .refresh ∨
        call.progress ≠ .started ∧ call.progress ≠ .raised) : Consumes s t
  | accepted (i : Nat) (call : TokenCall) (state : Nat) (session : OAuthAuthorizationSession)
      (here : s.calls[i]? = some call) (kind : call.kind = .completeCallback state)
      (found : s.find state = some session) (tenant : session.tenantId = call.connector.tenantId)
      (workspace : session.workspaceId = call.connector.workspaceId)
      (connector : session.connectorId = call.connector.id) (inTime : s.now < session.expiresAt) :
      Consumes s ((s.pop state).putCall i
        { call with progress := .authorized, acceptedAt := some s.now })

theorem getElem?_set_cases {calls : List TokenCall} {i j : Nat} {next call : TokenCall}
    (there : (calls.set i next)[j]? = some call) :
    (j = i ∧ call = next) ∨ calls[j]? = some call := by
  by_cases same : i = j
  · subst same
    have bound : i < calls.length := by simpa using (List.getElem?_eq_some_iff.mp there).1
    rw [List.getElem?_set_self bound] at there
    exact .inl ⟨rfl, (Option.some.inj there).symm⟩
  · rw [List.getElem?_set_ne same] at there
    exact .inr there

theorem getElem?_concat {calls : List TokenCall} {i : Nat} {new call : TokenCall}
    (there : (calls ++ [new])[i]? = some call) : calls[i]? = some call ∨ call = new ∧ i = calls.length := by
  rw [List.getElem?_append] at there
  split at there
  · exact .inl there
  · next beyond =>
    obtain ⟨bound, same⟩ := List.getElem?_eq_some_iff.mp there
    simp only [List.length_singleton] at bound
    exact .inr ⟨by simpa using same.symm, by omega⟩

theorem pop_pending (s : ConnectorOAuthService) (state : Nat) :
    (s.pop state).pendingStates ⊆ s.pendingStates := List.filter_subset_self _

theorem find_eq_some {state : Nat} {session : OAuthAuthorizationSession} :
    s.find state = some session ↔
      state ∈ s.pendingStates ∧ s.issued[state]? = some session := by
  unfold find
  split <;> simp [*]

theorem consumeState_ok {connector : ConnectorDefinition} {state : Nat}
    {session : OAuthAuthorizationSession} (ok : s.consumeState connector state = .ok session) :
    s.find state = some session ∧ session.tenantId = connector.tenantId ∧
      session.workspaceId = connector.workspaceId ∧ session.connectorId = connector.id ∧
      s.now < session.expiresAt := by
  unfold consumeState at ok
  split at ok
  · cases ok
  · next found there =>
    split at ok
    · cases ok
    · next same =>
      split at ok
      · cases ok
      · next inTime =>
        cases ok
        simp only [not_or, not_not] at same
        exact ⟨there, same.1, same.2.1, same.2.2, Int.not_le.mp inTime⟩

theorem storeRefreshToken_states (s : ConnectorOAuthService) (i : Nat)
    (connector : ConnectorDefinition) (response : OAuthTokenResponse) :
    (s.storeRefreshToken i connector response).calls = s.calls ∧
      (s.storeRefreshToken i connector response).issued = s.issued ∧
      (s.storeRefreshToken i connector response).pendingStates = s.pendingStates := by
  unfold storeRefreshToken
  split <;> exact ⟨rfl, rfl, rfl⟩

theorem consumes_of_step {label : Label} (moved : step s label = some t) : Consumes s t := by
  cases label with
  | issue connector requestedByUserId =>
    cases moved
    refine .aside _ _ rfl rfl ?_
    intro state member
    obtain old | new := List.mem_append.mp member
    · exact .inl old
    · rw [List.mem_singleton.mp new]
      exact .inr ⟨Nat.le_refl _, by simp [issue]⟩
  | pendingAuthorization state =>
    cases moved
    unfold pendingAuthorization
    split
    · exact .aside _ [] rfl (List.append_nil _).symm fun _ => .inl
    · split
      · exact .aside _ [] rfl (List.append_nil _).symm fun _ member => .inl (pop_pending s state member)
      · exact .aside _ [] rfl (List.append_nil _).symm fun _ => .inl
  | drop state =>
    cases moved
    exact .aside _ [] rfl (List.append_nil _).symm fun _ member => .inl (pop_pending s state member)
  | call connector kind =>
    cases moved
    exact .called connector kind
  | wait duration =>
    cases moved
    exact .aside _ [] rfl (List.append_nil _).symm fun _ => .inl
  | answer i response =>
    obtain ⟨call, here, answers⟩ := Option.bind_eq_some_iff.mp moved
    unfold ConnectorOAuthService.answer at answers
    split at answers <;> cases answers <;>
      exact .went _ i call _ here rfl rfl (List.Subset.refl _) rfl rfl rfl (by simp [*])
  | fail i =>
    obtain ⟨call, here, fails⟩ := Option.bind_eq_some_iff.mp moved
    split at fails
    · cases fails
      exact .went _ i call _ here rfl rfl (List.Subset.refl _) rfl rfl rfl (.inl rfl)
    · cases fails
  | advance i =>
    obtain ⟨call, here, advances⟩ := Option.bind_eq_some_iff.mp moved
    unfold ConnectorOAuthService.advance at advances
    split at advances
    · split at advances
      · next state kind =>
        split at advances
        · next session ok =>
          cases advances
          obtain ⟨found, tenant, workspace, connector, inTime⟩ := consumeState_ok ok
          exact .accepted i call state session here kind found tenant workspace connector inTime
        · cases advances
          exact .went _ i call _ here rfl rfl (pop_pending s state) rfl rfl rfl (.inl rfl)
      · next kind =>
        split at advances <;> cases advances <;>
          exact .went _ i call _ here rfl rfl (List.Subset.refl _) rfl rfl rfl (.inr (.inl kind))
    · cases advances
      exact .went _ i call _ here rfl rfl (List.Subset.refl _) rfl rfl rfl (by simp [*])
    · next response progress =>
      cases advances
      obtain ⟨calls, issued, pending⟩ := storeRefreshToken_states s i call.connector response
      refine .went _ i call { call with progress := .returned } here ?_ issued ?_ rfl rfl rfl
        (by simp [progress])
      · exact congrArg (List.set · i { call with progress := .returned }) calls
      · exact fun state member => pending ▸ member
    all_goals cases advances

structure Consumed (s : ConnectorOAuthService) : Prop extends s.Authorized where
  listed : ∀ state ∈ s.pendingStates, state < s.issued.length
  gone : ∀ (i : Nat) (call : TokenCall), s.calls[i]? = some call →
    ∀ state, call.kind = .completeCallback state → call.acceptedAt.isSome = true →
      state ∉ s.pendingStates

theorem Consumed.moved (consumed : Consumed s) (moved : Consumes s t) : Consumed t := by
  obtain ⟨⟨accepted, once, needed⟩, listed, gone⟩ := consumed
  cases moved with
  | aside _ more calls issued pending =>
    refine ⟨⟨?_, by rwa [calls], by rwa [calls]⟩, ?_, ?_⟩
    · rw [calls, issued]
      intro i call here state kind acceptedAt when
      obtain ⟨session, there, whole⟩ := accepted i call here state kind acceptedAt when
      refine ⟨session, ?_, whole⟩
      rw [List.getElem?_append_left (List.getElem?_eq_some_iff.mp there).1]
      exact there
    · intro state member
      obtain old | ⟨-, new⟩ := pending state member
      · rw [issued, List.length_append]
        exact Nat.lt_add_right _ (listed state old)
      · exact new
    · rw [calls]
      intro i call here state kind isSome member
      obtain old | ⟨new, -⟩ := pending state member
      · exact gone i call here state kind isSome old
      · obtain ⟨acceptedAt, when⟩ := Option.isSome_iff_exists.mp isSome
        obtain ⟨session, there, -⟩ := accepted i call here state kind acceptedAt when
        exact absurd (List.getElem?_eq_some_iff.mp there).1 (Nat.not_lt.mpr new)
  | called connector kind =>
    have old {i : Nat} {call : TokenCall} (here : (s.calls ++
        [{ connector := connector, kind := kind }])[i]? = some call) :
        s.calls[i]? = some call ∨ call.acceptedAt = none ∧ call.progress = .started := by
      obtain member | ⟨rfl, -⟩ := getElem?_concat here
      · exact .inl member
      · exact .inr ⟨rfl, rfl⟩
    refine ⟨⟨?_, ?_, ?_⟩, listed, ?_⟩
    · intro i call here state kind acceptedAt when
      obtain here | ⟨never, -⟩ := old here
      · exact accepted i call here state kind acceptedAt when
      · rw [never] at when
        cases when
    · intro i j call other here there state kind kind' isSome isSome'
      obtain here | ⟨never, -⟩ := old here
      · obtain there | ⟨never, -⟩ := old there
        · exact once i j call other here there state kind kind' isSome isSome'
        · rw [never] at isSome'
          cases isSome'
      · rw [never] at isSome
        cases isSome
    · intro i call here state kind begun alive
      obtain here | ⟨-, started⟩ := old here
      · exact needed i call here state kind begun alive
      · exact (begun started).elim
    · intro i call here state kind isSome
      obtain here | ⟨never, -⟩ := old here
      · exact gone i call here state kind isSome
      · rw [never] at isSome
        cases isSome
  | went _ i call next here calls issued pending kind connector acceptedAt progress =>
    have old {j : Nat} {after : TokenCall} (there : t.calls[j]? = some after) :
        ∃ before, s.calls[j]? = some before ∧ after.kind = before.kind ∧
          after.connector = before.connector ∧ after.acceptedAt = before.acceptedAt ∧
          (after.progress = .raised ∨ after.kind = .refresh ∨
            before.progress ≠ .started ∧ before.progress ≠ .raised ∨
            after.progress = before.progress) := by
      rw [calls] at there
      obtain ⟨rfl, rfl⟩ | there := getElem?_set_cases there
      · refine ⟨call, here, kind, connector, acceptedAt, ?_⟩
        rw [kind]
        exact progress.imp_right (Or.imp_right .inl)
      · exact ⟨after, there, rfl, rfl, rfl, .inr (.inr (.inr rfl))⟩
    refine ⟨⟨?_, ?_, ?_⟩, ?_, ?_⟩
    · intro j after there state is_callback at_time when
      obtain ⟨before, there, kind, connector, acceptedAt, -⟩ := old there
      rw [issued, connector]
      exact accepted j before there state (kind ▸ is_callback) at_time (acceptedAt ▸ when)
    · intro j k after other there elsewhere state is_callback is_callback' isSome isSome'
      obtain ⟨before, there, kind, -, acceptedAt, -⟩ := old there
      obtain ⟨before', elsewhere, kind', -, acceptedAt', -⟩ := old elsewhere
      exact once j k before before' there elsewhere state (kind ▸ is_callback)
        (kind' ▸ is_callback') (acceptedAt ▸ isSome) (acceptedAt' ▸ isSome')
    · intro j after there state is_callback begun alive
      obtain ⟨before, there, kind, -, acceptedAt, raised | refreshes | ⟨begun', alive'⟩ | same⟩ :=
        old there
      · exact (alive raised).elim
      · rw [is_callback] at refreshes
        cases refreshes
      · rw [acceptedAt]
        exact needed j before there state (kind ▸ is_callback) begun' alive'
      · rw [acceptedAt]
        exact needed j before there state (kind ▸ is_callback) (same ▸ begun) (same ▸ alive)
    · rw [issued]
      exact fun state member => listed state (pending member)
    · intro j after there state is_callback isSome member
      obtain ⟨before, there, kind, -, acceptedAt, -⟩ := old there
      exact gone j before there state (kind ▸ is_callback) (acceptedAt ▸ isSome) (pending member)
  | accepted i call state session here kind found tenant workspace connector inTime =>
    obtain ⟨pending, there⟩ := find_eq_some.mp found
    refine ⟨⟨?_, ?_, ?_⟩, ?_, ?_⟩
    · intro j after at_place other is_callback at_time when
      obtain ⟨rfl, rfl⟩ | at_place := getElem?_set_cases at_place
      · obtain rfl : state = other := by
          rw [kind] at is_callback
          cases is_callback
          rfl
        cases when
        exact ⟨session, there, tenant, workspace, connector, inTime⟩
      · exact accepted j after at_place other is_callback at_time when
    · intro j k after other at_place elsewhere which is_callback is_callback' isSome isSome'
      obtain ⟨rfl, rfl⟩ | before := getElem?_set_cases at_place
      · obtain ⟨rfl, rfl⟩ | before' := getElem?_set_cases elsewhere
        · rfl
        · -- another callback would have taken the state
          rw [kind] at is_callback
          cases is_callback
          exact (gone k other before' state is_callback' isSome' pending).elim
      · obtain ⟨rfl, rfl⟩ | before' := getElem?_set_cases elsewhere
        · rw [kind] at is_callback'
          cases is_callback'
          exact (gone j after before state is_callback isSome pending).elim
        · exact once j k after other before before' which is_callback is_callback' isSome isSome'
    · intro j after at_place which is_callback begun alive
      obtain ⟨rfl, rfl⟩ | at_place := getElem?_set_cases at_place
      · rfl
      · exact needed j after at_place which is_callback begun alive
    · exact fun which member => listed which (pop_pending s state member)
    · intro j after at_place which is_callback isSome member
      obtain ⟨rfl, rfl⟩ | at_place := getElem?_set_cases at_place
      · rw [kind] at is_callback
        cases is_callback
        simpa using (List.mem_filter.mp member).2
      · exact gone j after at_place which is_callback isSome (pop_pending s state member)

theorem consumed_start (now : Time) (values : String → String) : Consumed (start now values) :=
  ⟨⟨fun _ _ here => (nomatch here), fun _ _ _ _ here => (nomatch here),
    fun _ _ here => (nomatch here)⟩, fun _ member => (nomatch member),
    fun _ _ here => (nomatch here)⟩

theorem pairing_start (connector : ConnectorDefinition) (refreshRef : String) (now : Time)
    (values : String → String) : Pairing connector refreshRef (start now values) :=
  ⟨fun _ member => (nomatch member), fun _ member => (nomatch member), .inr rfl⟩

/-- In every run whose steps keep the two stores of a call together, an idle connector has the two
tokens of one response. In every run a state lets one callback through, of the tenant, the
workspace and the connector it was issued for and before its expiry. -/
theorem token_pair_together (connector : ConnectorDefinition) (now : Time)
    (values : String → String) (labels : List Label) (t : ConnectorOAuthService)
    (ran : Machine.run step (start now values) labels = some t) :
    (Machine.Conforms step (fun s label => OnOne connector label ∧ Together connector s label)
        (start now values) labels → t.Idle → t.Paired connector) ∧
      t.Authorized := by
  constructor
  · intro conforms idle refreshRef has
    by_cases apart : connector.oauth2.accessTokenSecretRefId = refreshRef
    · rw [apart]
    · have pairing : Pairing connector refreshRef t :=
        Machine.invariant_conforms (fun s label u pairing condition moved =>
          pairing.moved has apart condition.1 condition.2 (moved_of_step moved))
          (pairing_start connector refreshRef now values) conforms ran
      obtain ⟨i, call, response, here, progress, -⟩ | paired := pairing.pair
      · refine (idle call (List.mem_of_getElem? here) ?_).elim
        simp [TokenCall.InProgress, progress]
      · exact paired
  · exact (Machine.invariant_of_step (fun s label u consumed moved =>
      consumed.moved (consumes_of_step moved)) (consumed_start now values) ran).toAuthorized

def crm : ConnectorDefinition where
  id := "crm"
  tenantId := "tenant_acme"
  workspaceId := "workspace_sales"
  oauth2 := {
    accessTokenSecretRefId := "secret_access"
    refreshTokenSecretRefId := some "secret_refresh" }

def tokens (n : Nat) : OAuthTokenResponse where
  accessToken := s!"access_{n}"
  refreshToken := some s!"refresh_{n}"

def refreshed : List Label :=
  [.call crm .refresh, .advance 0, .answer 0 (tokens 0), .advance 0, .advance 0]

theorem token_pair_together_refreshed :
    (Machine.final step (start 0 fun _ => "") refreshed rfl).Paired crm ∧
      (Machine.final step (start 0 fun _ => "") refreshed rfl).Authorized := by
  obtain ⟨paired, authorized⟩ := token_pair_together crm 0 (fun _ => "") refreshed _
    (Machine.run_final step (start 0 fun _ => "") refreshed rfl)
  refine ⟨paired ?_ ?_, authorized⟩
  · refine .cons rfl ⟨rfl, trivial⟩ (.cons rfl ⟨trivial, ?_⟩ (.cons rfl ⟨rfl, trivial⟩
      (.cons rfl ⟨trivial, ?_⟩ (.cons rfl ⟨trivial, ?_⟩ trivial))))
    · rintro call response ⟨⟩ ⟨⟩
    · rintro call response ⟨⟩ ⟨⟩
    · exact fun _ _ _ _ => ⟨0, _, _, rfl, rfl, rfl⟩
  · unfold Idle
    decide

def failedRefresh : List Label :=
  [.call crm .refresh, .advance 0, .answer 0 (tokens 0), .advance 0, .fail 0]

def crossedRefreshes : List Label :=
  [.call crm .refresh, .call crm .refresh, .advance 0, .advance 1, .answer 0 (tokens 0),
    .answer 1 (tokens 1), .advance 0, .advance 1, .advance 1, .advance 0]

/-- A refresh that fails to store its refresh token, and two refreshes that store theirs crosswise:
nothing is under way and the tokens are of two responses. -/
theorem tokens_parted :
    ((∀ label ∈ failedRefresh, OnOne crm label) ∧
      ∃ t, Machine.run step (start 0 fun _ => "") failedRefresh = some t ∧
        t.Idle ∧ ¬t.Paired crm) ∧
    (∀ label ∈ crossedRefreshes, OnOne crm label) ∧
      ∃ t, Machine.run step (start 0 fun _ => "") crossedRefreshes = some t ∧
        t.Idle ∧ ¬t.Paired crm := by
  refine ⟨⟨?_, _, rfl, ?_, fun paired => ?_⟩, ?_, _, rfl, ?_, fun paired => ?_⟩
  · simp [failedRefresh, OnOne, tokens]
  · unfold Idle
    decide
  · exact absurd (paired "secret_refresh" rfl) (by decide)
  · simp [crossedRefreshes, OnOne, tokens]
  · unfold Idle
    decide
  · exact absurd (paired "secret_refresh" rfl) (by decide)

end States

end Taroai.Connectors.OAuth
