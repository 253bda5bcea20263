import Taroai.Api.Pagination

/-! Following `next_cursor` through a collection that changes between the requests. The page
of the source is the keyset page after the position its cursor stands for, so the walk of a
client is a keyset walk. -/

namespace Taroai.Api

open Store Json

section Cursors

variable {Body : Type} (readings : Readings)

theorem pageCursorOf_payload {createdAt : Time} {id : String} (held : Representable createdAt)
    (nonempty : id ≠ "") :
    pageCursorOf readings (cursorPayload createdAt id) = some ⟨createdAt, id, nonempty⟩ := by
  have written : Items.get? (ofTexts [("created_at", jsonDatetime createdAt), ("id", id)])
      "created_at" = some (.text (jsonDatetime createdAt)) := rfl
  have named : Items.get? (ofTexts [("created_at", jsonDatetime createdAt), ("id", id)]) "id" =
      some (.text id) := rfl
  unfold pageCursorOf cursorPayload
  dsimp only
  rw [written, named]
  dsimp only
  rw [readDatetime_json held, Option.some_or, Option.bind_eq_bind, Option.bind_some, dif_pos nonempty]

theorem encodePageCursor_ok {record : PageRecord Body} {id : String}
    (named : recordPageId record = .ok id) (nonempty : id ≠ "") :
    encodePageCursor record = .ok (String.ofList
      (Base64.strip (Base64.encode (cursorText record.createdAt id).toUTF8.data.toList))) := by
  unfold encodePageCursor
  rw [named]
  exact if_pos nonempty

theorem decode_encode {createdAt : Time} {id : String} (held : Representable createdAt)
    (nonempty : id ≠ "") :
    decodePageCursor readings (String.ofList
      (Base64.strip (Base64.encode (cursorText createdAt id).toUTF8.data.toList))) =
        .ok ⟨createdAt, id, nonempty⟩ := by
  have ascii : (Base64.strip (Base64.encode (cursorText createdAt id).toUTF8.data.toList)).all
      (fun c => c.toNat < 128) = true := by
    rw [List.all_eq_true]
    intro c member
    have kept : Base64.strip (Base64.encode (cursorText createdAt id).toUTF8.data.toList) <+:
        Base64.encode (cursorText createdAt id).toUTF8.data.toList := List.rdropWhile_prefix _ _
    exact decide_eq_true (Base64.encode_ascii _ c (kept.subset member))
  have distinct : ([("created_at", jsonDatetime createdAt), ("id", id)].map Prod.fst).Nodup := by
    change ["created_at", "id"].Nodup
    decide
  unfold decodePageCursor
  simp only [String.toList_ofList, Option.bind_eq_bind]
  rw [if_pos ascii, Base64.pad_strip_encode, Base64.decode_encode, Option.bind_some,
    Base64.fromUTF8?_bytes, Option.bind_some, cursorText, String.toList_ofList, cursorPayload,
    loads_dumps _ _ _ distinct, Option.bind_some, ← cursorPayload,
    pageCursorOf_payload readings held nonempty]

end Cursors

section Keys

variable {Body : Type}

def SortDirection.precedes : SortDirection → SortKey → SortKey → Prop
  | .asc, a, b => a < b
  | .desc, a, b => b < a

instance (direction : SortDirection) : DecidableRel direction.precedes := fun a b =>
  match direction with
  | .asc => inferInstanceAs (Decidable (a < b))
  | .desc => inferInstanceAs (Decidable (b < a))

instance (direction : SortDirection) : IsStrictTotalOrder SortKey direction.precedes :=
  match direction with
  | .asc => inferInstanceAs (IsStrictTotalOrder SortKey (· < ·))
  | .desc => inferInstanceAs (IsStrictTotalOrder SortKey (· > ·))

def pageKey (record : PageRecord Body) : SortKey :=
  toLex (record.createdAt, ((record.id.or record.key).or record.manifestId).getD "")

theorem pageKey_eq {record : PageRecord Body} {id : String} (named : recordPageId record = .ok id) :
    pageKey record = toLex (record.createdAt, id) := by
  unfold recordPageId at named
  unfold pageKey
  cases own : record.id <;> cases key : record.key <;> cases manifest : record.manifestId <;>
    rw [own, key, manifest] at named <;> cases named <;> rfl

structure PageCollection (Body : Type) where
  records : List (PageRecord Body)
  named : ∀ record ∈ records, ∃ id, recordPageId record = .ok id
  distinct : (records.map pageKey).Nodup

def withKey (record : PageRecord Body) : SortKey × PageRecord Body := (pageKey record, record)

theorem keyedRecords_ok {records : List (PageRecord Body)}
    (named : ∀ record ∈ records, ∃ id, recordPageId record = .ok id) :
    keyedRecords records = .ok (records.map withKey) := by
  induction records with
  | nil => rfl
  | cons record rest ih =>
    obtain ⟨id, here⟩ := named record List.mem_cons_self
    rw [keyedRecords, here, ih fun other member => named other (List.mem_cons_of_mem _ member),
      List.map_cons, withKey, pageKey_eq here]
    rfl

theorem sortedRecords_eq (direction : SortDirection) (records : List (PageRecord Body)) :
    sortedRecords direction (records.map withKey) =
      (Keyset.arranged direction.precedes pageKey records).map withKey := by
  unfold sortedRecords Keyset.arranged
  cases direction with
  | asc =>
    rw [if_neg (by decide)]
    exact (List.map_insertionSort _ _ withKey records fun a _ b _ => not_lt).symm
  | desc =>
    rw [if_pos rfl]
    exact (List.map_insertionSort _ _ withKey records fun a _ b _ => not_lt).symm

theorem recordIsAfterCursor_eq (key : SortKey) (cursor : PageCursor) (direction : SortDirection) :
    recordIsAfterCursor key cursor direction = decide (direction.precedes cursor.sortKey key) := by
  cases direction <;> rfl

theorem candidates_eq (direction : SortDirection) (cursor : Option PageCursor)
    (records : List (PageRecord Body)) :
    ((sortedRecords direction (records.map withKey)).filter fun item =>
        cursor.all fun cursor => recordIsAfterCursor item.1 cursor direction) =
      (Keyset.beyond direction.precedes pageKey (cursor.map PageCursor.sortKey) records).map
        withKey := by
  rw [sortedRecords_eq, List.filter_map, Keyset.beyond]
  congr 2
  funext record
  cases cursor with
  | none => rfl
  | some cursor => exact recordIsAfterCursor_eq _ cursor direction

end Keys

section Clients

variable {Body : Type}

inductive ClientState where
  | asking (cursor : Option String)
  | finished
  | refused (error : PageError)

/-- A client that follows `next_cursor`: what it was returned, and what it does next. -/
structure Client (Body : Type) where
  returned : List (PageRecord Body)
  state : ClientState

variable (readings : Readings) (request : PageRequest)

def Client.start : Client Body := ⟨[], .asking none⟩

def Client.step (client : Client Body) (records : List (PageRecord Body)) : Client Body :=
  match client.state with
  | .asking cursor =>
    match paginateCreatedAtRecords readings records { request with cursor := cursor } with
    | .error error => { client with state := .refused error }
    | .ok page =>
      { returned := client.returned ++ page.items
        state := if page.hasMore then .asking page.nextCursor else .finished }
  | _ => client

def Client.run (collections : Nat → PageCollection Body) : Nat → Client Body
  | 0 => .start
  | n + 1 => (run collections n).step readings request (collections n).records

abbrev keysetRun (collections : Nat → PageCollection Body) (n : Nat) :
    Keyset.Walk (PageRecord Body) :=
  Keyset.Walk.run request.sortDirection.precedes pageKey request.limit
    (fun i => (collections i).records) n

def Positioned (cursor : Option String) (position : Option SortKey) : Prop :=
  match cursor with
  | none => position = none
  | some value => ∃ decoded, decodePageCursor readings value = .ok decoded ∧
      position = some decoded.sortKey

abbrev leftFor (position : Option SortKey) (collection : PageCollection Body) :
    List (PageRecord Body) :=
  Keyset.beyond request.sortDirection.precedes pageKey position collection.records

variable {readings request}

theorem Positioned.decoded {cursor : Option String} {position : Option SortKey}
    (positioned : Positioned readings cursor position) : ∃ decoded,
      requestCursor readings cursor = .ok decoded ∧
        position = decoded.map PageCursor.sortKey := by
  cases cursor with
  | none => exact ⟨none, rfl, positioned⟩
  | some value =>
    obtain ⟨decoded, read, same⟩ := positioned
    exact ⟨some decoded, by rw [requestCursor, read]; rfl, same⟩

theorem visibleRecords_eq (decoded : Option PageCursor) (collection : PageCollection Body) :
    (((sortedRecords request.sortDirection (collection.records.map withKey)).filter fun item =>
        decoded.all fun cursor => recordIsAfterCursor item.1 cursor request.sortDirection).take
          (request.limit + 1)).map Prod.snd =
      (leftFor request (decoded.map PageCursor.sortKey) collection).take (request.limit + 1) := by
  rw [candidates_eq, ← List.map_take, List.map_map]
  exact List.map_id _

theorem paginate_eq (request : PageRequest) {cursor : Option String} {position : Option SortKey}
    (positioned : Positioned readings cursor position) (collection : PageCollection Body) :
    paginateCreatedAtRecords readings collection.records { request with cursor := cursor } =
      match ((leftFor request position collection).take request.limit).getLast? with
      | some last =>
        if request.limit < (leftFor request position collection).length then
          (encodePageCursor last).map fun next =>
            ⟨(leftFor request position collection).take request.limit, request.limit, some next, true⟩
        else .ok ⟨(leftFor request position collection).take request.limit, request.limit, none, false⟩
      | none => .ok ⟨[], request.limit, none, false⟩ := by
  obtain ⟨decoded, read, rfl⟩ := positioned.decoded
  unfold paginateCreatedAtRecords
  dsimp only
  rw [read, keyedRecords_ok collection.named]
  simp only [bind, Except.bind]
  rw [visibleRecords_eq]
  generalize leftFor request (decoded.map PageCursor.sortKey) collection = left
  have page : (left.take (request.limit + 1)).take request.limit = left.take request.limit := by
    rw [List.take_take, Nat.min_eq_left (Nat.le_succ _)]
  have more : ((left.take (request.limit + 1)).length > request.limit) = (request.limit < left.length) := by
    rw [List.length_take]
    exact propext (by omega)
  simp only [page, more]
  unfold nextPageCursor
  cases ends : (left.take request.limit).getLast? with
  | none =>
    have empty := List.getLast?_eq_none_iff.mp ends
    have none_left : ¬request.limit < left.length := by
      have positive := request.limit_valid.1
      have lengths := congrArg List.length empty
      rw [List.length_take, List.length_nil] at lengths
      omega
    rw [empty, decide_eq_false none_left]
    rfl
  | some last =>
    dsimp only
    by_cases long : request.limit < left.length
    · rw [if_pos long, if_pos (decide_eq_true long), decide_eq_true long]
      cases encodePageCursor last <;> rfl
    · rw [if_neg long, if_neg (by simpa using long), decide_eq_false long]
      rfl

theorem encodePageCursor_empty {record : PageRecord Body} (named : recordPageId record = .ok "") :
    encodePageCursor record = .error .validation := by
  unfold encodePageCursor
  rw [named]
  rfl

theorem positioned_encode (readings : Readings) {record : PageRecord Body} {id : String}
    (named : recordPageId record = .ok id) (nonempty : id ≠ "") :
    ∃ value, encodePageCursor record = .ok value ∧
      Positioned readings (some value) (some (pageKey record)) := by
  refine ⟨_, encodePageCursor_ok named nonempty, _,
    decode_encode readings record.created nonempty, ?_⟩
  rw [pageKey_eq named]
  rfl

variable (readings request) (collections : Nat → PageCollection Body)

def Follows (n : Nat) (client : Client Body) : Prop :=
  match client.state with
  | .asking cursor => client.returned = (keysetRun request collections n).returned ∧
      (keysetRun request collections n).more = true ∧
      Positioned readings cursor ((keysetRun request collections n).position pageKey)
  | .finished => client.returned = (keysetRun request collections n).returned ∧
      (keysetRun request collections n).more = false
  | .refused error => error = .validation ∧ ∃ i < n,
      client.returned = (keysetRun request collections i).returned ∧
      ∃ record ∈ (collections i).records, recordPageId record = .ok ""

theorem step_follows {n : Nat} {client : Client Body}
    (follows : Follows readings request collections n client) :
    Follows readings request collections (n + 1)
      (client.step readings request (collections n).records) := by
  unfold Follows at follows
  cases state : client.state with
  | refused error =>
    rw [state] at follows
    obtain ⟨raised, i, before, same, empty⟩ := follows
    unfold Client.step Follows
    simp only [state]
    exact ⟨raised, i, Nat.lt_succ_of_lt before, same, empty⟩
  | finished =>
    rw [state] at follows
    obtain ⟨same, finished⟩ := follows
    have stays : keysetRun request collections (n + 1) = keysetRun request collections n := by
      rw [keysetRun, Keyset.Walk.run, Keyset.Walk.step, if_neg (by rw [finished]; decide)]
    unfold Client.step Follows
    simp only [state]
    rw [stays]
    exact ⟨same, finished⟩
  | asking cursor =>
    rw [state] at follows
    obtain ⟨same, going, positioned⟩ := follows
    have next : keysetRun request collections (n + 1) =
        ⟨(keysetRun request collections n).returned ++
          (leftFor request ((keysetRun request collections n).position pageKey)
            (collections n)).take request.limit,
          decide (request.limit < (leftFor request
            ((keysetRun request collections n).position pageKey) (collections n)).length)⟩ := by
      rw [keysetRun, Keyset.Walk.run, Keyset.Walk.step, if_pos going]
    have page := paginate_eq request positioned (collections n)
    unfold Client.step
    simp only [state]
    rw [page]
    generalize left_eq : leftFor request ((keysetRun request collections n).position pageKey)
      (collections n) = left at next ⊢
    cases ends : (left.take request.limit).getLast? with
    | none =>
      have empty := List.getLast?_eq_none_iff.mp ends
      have none_left : ¬request.limit < left.length := by
        have positive := request.limit_valid.1
        have lengths := congrArg List.length empty
        rw [List.length_take, List.length_nil] at lengths
        omega
      unfold Follows
      simp only [Bool.false_eq_true, if_false]
      rw [next, empty, same]
      exact ⟨rfl, decide_eq_false none_left⟩
    | some last =>
      dsimp only
      by_cases long : request.limit < left.length
      · have here : last ∈ (collections n).records := by
          have taken := List.mem_of_mem_take (List.mem_of_getLast? ends)
          rw [← left_eq] at taken
          exact ((Keyset.mem_beyond _ _).mp taken).1
        obtain ⟨id, named⟩ := (collections n).named last here
        rw [if_pos long]
        by_cases nonempty : id = ""
        · -- the cursor of an empty id is refused, and the page with it
          subst nonempty
          rw [encodePageCursor_empty named]
          exact ⟨rfl, n, Nat.lt_succ_self n, same, last, here, named⟩
        · obtain ⟨value, encoded, stands⟩ := positioned_encode readings named nonempty
          rw [encoded]
          unfold Follows
          simp only [Except.map, if_true]
          rw [next, Keyset.position_append, ends, same]
          exact ⟨rfl, decide_eq_true long, stands⟩
      · rw [if_neg long]
        unfold Follows
        simp only [Bool.false_eq_true, if_false]
        rw [next, same]
        exact ⟨rfl, decide_eq_false long⟩

theorem run_follows (n : Nat) : Follows readings request collections n
    (Client.run readings request collections n) := by
  induction n with
  | zero => exact ⟨rfl, rfl, rfl⟩
  | succ n ih => exact step_follows readings request collections ih

theorem Follows.returned {n : Nat} {client : Client Body}
    (follows : Follows readings request collections n client) :
    ∃ i, client.returned = (keysetRun request collections i).returned := by
  unfold Follows at follows
  cases state : client.state with
  | asking cursor =>
    rw [state] at follows
    exact ⟨n, follows.1⟩
  | finished =>
    rw [state] at follows
    exact ⟨n, follows.1⟩
  | refused error =>
    rw [state] at follows
    obtain ⟨-, i, -, same, -⟩ := follows
    exact ⟨i, same⟩

variable {readings request collections}

theorem returned_pairwise (n : Nat) :
    (Client.run readings request collections n).returned.Pairwise fun a b =>
      request.sortDirection.precedes (pageKey a) (pageKey b) := by
  obtain ⟨i, same⟩ := (run_follows readings request collections n).returned
  rw [same]
  exact Keyset.run_pairwise _ _ (fun i => (collections i).distinct) i

theorem finished_covers {n : Nat}
    (finished : (Client.run readings request collections n).state = .finished) {k : SortKey}
    (there : ∀ i < n, k ∈ (collections i).records.map pageKey) :
    ((Client.run readings request collections n).returned.map pageKey).count k = 1 := by
  have follows := run_follows readings request collections n
  unfold Follows at follows
  rw [finished] at follows
  obtain ⟨same, stopped⟩ := follows
  have member : k ∈ (Client.run readings request collections n).returned.map pageKey := by
    rw [same]
    exact Keyset.run_covers _ _ (fun i => (collections i).distinct) there (.inl stopped)
  refine List.count_eq_one_of_mem ?_ member
  refine List.pairwise_map.mpr ((returned_pairwise n).imp ?_)
  intro a b less equal
  rw [equal] at less
  exact irrefl_of request.sortDirection.precedes _ less

theorem refused_by_empty {n : Nat} {error : PageError}
    (refused : (Client.run readings request collections n).state = .refused error) :
    error = .validation ∧ ∃ i < n, ∃ record ∈ (collections i).records,
      recordPageId record = .ok "" := by
  have follows := run_follows readings request collections n
  unfold Follows at follows
  rw [refused] at follows
  obtain ⟨raised, i, before, -, empty⟩ := follows
  exact ⟨raised, i, before, empty⟩

theorem walk_finishes
    (named : ∀ n, ∀ record ∈ (collections n).records, recordPageId record ≠ .ok "") (quiet : Nat)
    (settled : ∀ n, quiet ≤ n → ∀ record ∈ (collections (n + 1)).records,
      (∀ last, (Client.run readings request collections (n + 1)).returned.getLast? = some last →
        request.sortDirection.precedes (pageKey last) (pageKey record)) →
      pageKey record ∈ (collections n).records.map pageKey) :
    ∃ n, (Client.run readings request collections n).state = .finished := by
  have unrefused (n : Nat) (error : PageError) :
      (Client.run readings request collections n).state ≠ .refused error := fun refused => by
    obtain ⟨-, i, -, record, member, empty⟩ := refused_by_empty refused
    exact named i record member empty
  have same (n : Nat) : (Client.run readings request collections n).returned =
      (keysetRun request collections n).returned := by
    have follows := run_follows readings request collections n
    unfold Follows at follows
    cases state : (Client.run readings request collections n).state with
    | asking cursor =>
      rw [state] at follows
      exact follows.1
    | finished =>
      rw [state] at follows
      exact follows.1
    | refused error => exact absurd state (unrefused n error)
  obtain ⟨n, ended⟩ := Keyset.run_ends request.sortDirection.precedes pageKey
    (fun i => (collections i).distinct) request.limit_valid.1 quiet fun n late record left => by
      obtain ⟨member, after⟩ := (Keyset.mem_beyond _ _).mp left
      refine settled n late record member fun last ends => after (pageKey last) ?_
      rw [Keyset.Walk.position, ← same (n + 1), ends]
      rfl
  have follows := run_follows readings request collections n
  unfold Follows at follows
  cases state : (Client.run readings request collections n).state with
  | asking cursor =>
    rw [state] at follows
    rw [follows.2.1] at ended
    cases ended
  | finished => exact ⟨n, state⟩
  | refused error => exact absurd state (unrefused n error)

end Clients

section EmptyKey

def emptyKey : PageRecord Unit := ⟨1, none, some "", none, (), by decide⟩

def namedKey : PageRecord Unit := ⟨0, none, some "note", none, (), by decide⟩

def keyedEntries : PageCollection Unit where
  records := [namedKey, emptyKey]
  named record member := by
    rcases List.mem_cons.mp member with rfl | member
    · exact ⟨_, rfl⟩
    · rw [List.mem_singleton.mp member]
      exact ⟨_, rfl⟩
  distinct := by decide

def plainReadings : Readings := ⟨fun _ => .null, fun _ => none⟩

def oneEach : PageRequest := ⟨1, none, .desc, by decide⟩

end EmptyKey

end Taroai.Api
