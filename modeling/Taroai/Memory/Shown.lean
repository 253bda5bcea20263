import Taroai.Lib.Whitespace
import Taroai.Memory.ShortTerm

/-! What a table of entries shows for names that have none of the characters that the stored keys
and the scan patterns are made with. The keys of both services tell such names. -/

namespace Taroai.Memory.ShortTerm

variable {V : Type}

/-- No `:`, and nothing that a glob pattern reads as more than itself. -/
def PlainName (name : Text) : Prop := ':' ∉ name ∧ ∀ c ∈ name, c ∉ globSpecial

instance (name : Text) : Decidable (PlainName name) :=
  decidable_of_iff (':' ∉ name ∧ name.all (fun c => decide (c ∉ globSpecial)) = true)
    (by simp [PlainName])

theorem name_inj {a b x y : Text} (plain_a : PlainName a) (plain_b : PlainName b) :
    a ++ ':' :: x = b ++ ':' :: y ↔ a = b ∧ x = y := by
  have first_part : ∀ {c z : Text}, PlainName c → (c ++ ':' :: z).takeWhile (· ≠ ':') = c := by
    intro c z plain
    rw [List.takeWhile_append_of_pos fun d among => by
      simpa using fun same : d = ':' => plain.1 (same ▸ among)]
    simp
  constructor
  · intro same
    have parts : a = b := by rw [← first_part plain_a, same, first_part plain_b]
    subst parts
    simpa using same
  · rintro ⟨rfl, rfl⟩
    rfl

theorem name_prefix {a b x y : Text} (plain_a : PlainName a) (plain_b : PlainName b) :
    a ++ ':' :: x <+: b ++ ':' :: y ↔ a = b ∧ x <+: y := by
  constructor
  · rintro ⟨rest, whole⟩
    rw [List.append_assoc, List.cons_append, name_inj plain_a plain_b] at whole
    exact ⟨whole.1, rest, whole.2⟩
  · rintro ⟨rfl, rest, rfl⟩
    exact ⟨rest, by simp⟩

namespace InMemory

variable {t r t' r' : Text} (k k' : Text)

theorem storedKey_inj (plain_t : PlainName t) (plain_r : PlainName r) (plain_t' : PlainName t')
    (plain_r' : PlainName r') :
    storedKey t r k = storedKey t' r' k' ↔ t = t' ∧ r = r' ∧ k = k' := by
  simp only [storedKey, keyPrefix, List.append_assoc, List.cons_append, List.nil_append,
    name_inj plain_t plain_t', name_inj plain_r plain_r']

theorem runPrefix_of (plain_t : PlainName t) (plain_r : PlainName r) (plain_t' : PlainName t')
    (plain_r' : PlainName r') :
    (keyPrefix t r).isPrefixOf (storedKey t' r' k) = true ↔ t = t' ∧ r = r' := by
  simp only [storedKey, keyPrefix, List.append_assoc, List.cons_append, List.nil_append,
    List.isPrefixOf_iff_prefix, name_prefix plain_t plain_t', name_prefix plain_r plain_r',
    List.nil_prefix, and_true]

theorem tenantPrefix_of (plain_t : PlainName t) (plain_t' : PlainName t') :
    (t ++ [':']).isPrefixOf (storedKey t' r' k) = true ↔ t = t' := by
  simp only [storedKey, keyPrefix, List.append_assoc, List.cons_append,
    List.isPrefixOf_iff_prefix, name_prefix plain_t plain_t', List.nil_prefix, and_true]

end InMemory

namespace Redis

variable (service : Service V) {t r t' r' : Text} (k k' : Text)

theorem storedKey_eq : storedKey service t r k =
    service.keyPrefix ++ (":tenant:".toList ++
      (t ++ ':' :: ("run:".toList ++ (r ++ ':' :: ("key:".toList ++ k))))) := by
  have run_mark : ":run:".toList = ':' :: "run:".toList := rfl
  have key_mark : ":key:".toList = ':' :: "key:".toList := rfl
  simp only [storedKey, runPrefix, run_mark, key_mark, List.append_assoc, List.cons_append]

theorem storedKey_inj (plain_t : PlainName t) (plain_r : PlainName r) (plain_t' : PlainName t')
    (plain_r' : PlainName r') :
    storedKey service t r k = storedKey service t' r' k' ↔ t = t' ∧ r = r' ∧ k = k' := by
  simp only [storedKey_eq, List.append_cancel_left_eq, name_inj plain_t plain_t',
    name_inj plain_r plain_r']

theorem runPrefix_of (plain_t : PlainName t) (plain_r : PlainName r) (plain_t' : PlainName t')
    (plain_r' : PlainName r') :
    (runPrefix service t r).isPrefixOf (storedKey service t' r' k) = true ↔ t = t' ∧ r = r' := by
  have whole : runPrefix service t r = storedKey service t r [] := by simp [storedKey]
  simp only [whole, storedKey_eq, List.isPrefixOf_iff_prefix, List.prefix_append_right_inj,
    name_prefix plain_t plain_t', name_prefix plain_r plain_r', List.nil_prefix, and_true]

theorem tenantPrefix_of (plain_t : PlainName t) (plain_t' : PlainName t') :
    (tenantPrefix service t).isPrefixOf (storedKey service t' r' k) = true ↔ t = t' := by
  simp only [tenantPrefix, storedKey_eq, List.append_assoc, List.isPrefixOf_iff_prefix,
    List.prefix_append_right_inj, name_prefix plain_t plain_t', List.nil_prefix, and_true]

theorem covers_literal (plain : ∀ c ∈ service.keyPrefix, c ∉ globSpecial) (plain_t : PlainName t)
    (plain_r : PlainName r) (key : Text) :
    service.glob.covers (runPrefix service t r ++ ['*']) key =
        (runPrefix service t r).isPrefixOf key ∧
      service.glob.covers (tenantPrefix service t ++ ['*']) key =
        (tenantPrefix service t).isPrefixOf key := by
  have marks : ∀ mark ∈ [":tenant:", ":run:", ":key:", ":"], ∀ c ∈ mark.toList,
      c ∉ globSpecial := by
    have checked : [":tenant:", ":run:", ":key:", ":"].all (fun mark =>
        mark.toList.all fun c => decide (c ∉ globSpecial)) = true := by decide
    exact fun mark among => forall_mem_of_all (List.all_eq_true.mp checked mark among)
  constructor
  · refine service.glob.literal _ key ?_
    intro c among
    simp only [runPrefix, List.mem_append] at among
    obtain ((((of_service | of_mark) | of_tenant) | of_mark) | of_run) | of_mark := among
    · exact plain c of_service
    · exact marks _ (by simp) c of_mark
    · exact plain_t.2 c of_tenant
    · exact marks _ (by simp) c of_mark
    · exact plain_r.2 c of_run
    · exact marks _ (by simp) c of_mark
  · refine service.glob.literal _ key ?_
    intro c among
    simp only [tenantPrefix, List.mem_append] at among
    obtain ((of_service | of_mark) | of_tenant) | of_mark := among
    · exact plain c of_service
    · exact marks _ (by simp) c of_mark
    · exact plain_t.2 c of_tenant
    · exact marks ":" (by simp) c of_mark

end Redis

theorem live_eq_some {now : Time} {stored : Option (ShortTermMemoryEntry V)}
    {entry : ShortTermMemoryEntry V} :
    live now stored = some entry ↔ stored = some entry ∧ entry.isExpired now = false := by
  simp [live, Option.filter_eq_some_iff]

theorem live_some (now : Time) (entry : ShortTermMemoryEntry V) :
    live now (some entry) = if entry.isExpired now then none else some entry := by
  rw [live, Option.filter_some]
  cases entry.isExpired now <;> rfl

theorem live_live {earlier now : Time} (forward : earlier ≤ now)
    (stored : Option (ShortTermMemoryEntry V)) : live now (live earlier stored) = live now stored := by
  ext entry
  simp only [live_eq_some]
  constructor
  · exact fun shown => ⟨shown.1.1, shown.2⟩
  · rintro ⟨rfl, fresh⟩
    refine ⟨⟨rfl, ?_⟩, fresh⟩
    simp only [ShortTermMemoryEntry.isExpired, decide_eq_false_iff_not, not_le] at fresh ⊢
    exact lt_of_le_of_lt forward fresh

def SameLive (now : Time) (contents contents' : Contents V) : Prop :=
  ∀ tenantId runId key, live now (contents tenantId runId key) = live now (contents' tenantId runId key)

namespace SameLive

variable {now : Time} {contents contents' : Contents V}

theorem later {earlier : Time} (same : SameLive earlier contents contents')
    (forward : earlier ≤ now) : SameLive now contents contents' := by
  intro t r k
  rw [← live_live forward, same t r k, live_live forward]

theorem after (same : SameLive now contents contents') (op : Op V) :
    SameLive now (contents.after now op) (contents'.after now op) := by
  intro t r k
  cases op with
  | put request =>
    simp only [Contents.after]
    split
    · rfl
    · exact same t r k
  | get => exact same t r k
  | listForRun => exact same t r k
  | delete =>
    simp only [Contents.after]
    split
    · rfl
    · exact same t r k
  | deleteForTenant =>
    simp only [Contents.after]
    split
    · rfl
    · exact same t r k

theorem answers (same : SameLive now contents contents') {op : Op V} {result : Result V}
    (answered : Answers contents now op result) : Answers contents' now op result := by
  unfold SameLive at same
  cases op <;> cases result <;> simp_all [Answers]

end SameLive

theorem Answers.unique {contents : Contents V} {now : Time} {op : Op V} {result result' : Result V}
    (answered : Answers contents now op result) (answered' : Answers contents now op result') :
    result = result' := by
  cases op with
  | put => cases result <;> cases result' <;> simp_all [Answers]
  | get => cases result <;> cases result' <;> simp_all [Answers]
  | delete => cases result <;> cases result' <;> simp_all [Answers]
  | listForRun tenantId runId =>
    cases result with
    | entries listed =>
      cases result' with
      | entries listed' =>
        have distinct : ∀ {l : List (ShortTermMemoryEntry V)},
            l.Pairwise (fun a b => a.key < b.key) → l.Nodup :=
          fun sorted => sorted.imp fun below same => absurd (same ▸ below) (lt_irrefl _)
        have same : listed.Perm listed' :=
          (List.perm_ext_iff_of_nodup (distinct answered.1) (distinct answered'.1)).mpr
            fun entry => (answered.2 entry).trans (answered'.2 entry).symm
        rw [same.eq_of_pairwise (fun a b _ _ below above => absurd (below.trans above) (lt_irrefl _))
          answered.1 answered'.1]
      | _ => exact False.elim answered'
    | _ => exact False.elim answered
  | deleteForTenant tenantId =>
    cases result with
    | count n =>
      cases result' with
      | count n' =>
        obtain ⟨removed, nodup, rfl, mem_removed⟩ := answered
        obtain ⟨removed', nodup', rfl, mem_removed'⟩ := answered'
        have same : removed.Perm removed' :=
          (List.perm_ext_iff_of_nodup nodup nodup').mpr
            fun p => (mem_removed p).trans (mem_removed' p).symm
        rw [same.length_eq]
      | _ => exact False.elim answered'
    | _ => exact False.elim answered

theorem answers_list {contents : Contents V} {now : Time} {tenantId runId : Text}
    {listed : List (ShortTermMemoryEntry V)} (keys : (listed.map ShortTermMemoryEntry.key).Nodup)
    (members : ∀ entry, entry ∈ listed ↔
      ∃ key, live now (contents tenantId runId key) = some entry) :
    Answers contents now (.listForRun tenantId runId)
      (.entries (Ranked.orderBy ShortTermMemoryEntry.key listed)) := by
  refine ⟨?_, fun entry => Ranked.mem_orderBy.trans (members entry)⟩
  have distinct : ((Ranked.orderBy ShortTermMemoryEntry.key listed).map
      ShortTermMemoryEntry.key).Nodup :=
    ((Ranked.orderBy_perm _ _).map _).nodup_iff.mpr keys
  have strict := (Ranked.orderBy_sorted ShortTermMemoryEntry.key listed).and
    (List.pairwise_map.mp distinct)
  exact strict.imp fun below => lt_of_le_of_ne below.1 below.2

/-- The names of the call are plain, and a value that is put survives its JSON text. -/
def Op.Named (service : Redis.Service V) : Op V → Prop
  | .put request =>
    PlainName request.tenantId ∧ PlainName request.runId ∧ service.reread request.value = request.value
  | .get tenantId runId _ | .listForRun tenantId runId | .delete tenantId runId _ =>
    PlainName tenantId ∧ PlainName runId
  | .deleteForTenant tenantId => PlainName tenantId

section Stored

variable {β : Type} {keyOf : β → Text} (entryOf : β → ShortTermMemoryEntry V)
  (storedKey : Text → Text → Text → Text)

def shown (table : Table keyOf) : Contents V := fun tenantId runId key =>
  if PlainName tenantId ∧ PlainName runId then
    (table.get? (storedKey tenantId runId key)).map entryOf
  else none

def Keyed (table : Table keyOf) : Prop :=
  ∀ b ∈ table.entries, PlainName (entryOf b).tenantId ∧ PlainName (entryOf b).runId ∧
    keyOf b = storedKey (entryOf b).tenantId (entryOf b).runId (entryOf b).key

def TellsNames : Prop := ∀ t r k t' r' k', PlainName t → PlainName r → PlainName t' → PlainName r' →
  (storedKey t r k = storedKey t' r' k' ↔ t = t' ∧ r = r' ∧ k = k')

variable {entryOf} {storedKey} {table : Table keyOf}

theorem Keyed.filter (keyed : Keyed entryOf storedKey table) (kept : β → Bool) :
    Keyed entryOf storedKey (table.filter kept) :=
  fun b among => keyed b (List.mem_filter.mp among).1

theorem shown_eq_some (tells : TellsNames storedKey) (keyed : Keyed entryOf storedKey table)
    {t r k : Text} {entry : ShortTermMemoryEntry V} :
    shown entryOf storedKey table t r k = some entry ↔
      ∃ b ∈ table.entries, entryOf b = entry ∧
        entry.tenantId = t ∧ entry.runId = r ∧ entry.key = k := by
  rw [shown]
  constructor
  · intro shows
    split at shows
    · rename_i plain
      obtain ⟨b, found, rfl⟩ := Option.map_eq_some_iff.mp shows
      obtain ⟨among, named⟩ := Table.get?_eq_some.mp found
      obtain ⟨plain_t, plain_r, under⟩ := keyed b among
      exact ⟨b, among, rfl,
        (tells _ _ _ _ _ _ plain_t plain_r plain.1 plain.2).mp (under.symm.trans named)⟩
    · cases shows
  · rintro ⟨b, among, rfl, rfl, rfl, rfl⟩
    obtain ⟨plain_t, plain_r, under⟩ := keyed b among
    rw [if_pos ⟨plain_t, plain_r⟩, Table.get?_eq_some.mpr ⟨among, under⟩]
    rfl

theorem shown_of_mem (tells : TellsNames storedKey) (keyed : Keyed entryOf storedKey table) {b : β}
    (among : b ∈ table.entries) :
    shown entryOf storedKey table (entryOf b).tenantId (entryOf b).runId (entryOf b).key =
      some (entryOf b) :=
  (shown_eq_some tells keyed).mpr ⟨b, among, rfl, rfl, rfl, rfl⟩

theorem shown_put (tells : TellsNames storedKey) (keyed : Keyed entryOf storedKey table) {b : β}
    (now : Time) {request : ShortTermMemoryWrite V} (plain_t : PlainName request.tenantId)
    (plain_r : PlainName request.runId)
    (under : keyOf b = storedKey request.tenantId request.runId request.key)
    (written : entryOf b = ShortTermMemoryEntry.fromWrite request now) :
    Keyed entryOf storedKey (table.put b) ∧
      shown entryOf storedKey (table.put b) =
        (shown entryOf storedKey table).after now (.put request) := by
  constructor
  · intro c among
    cases Table.mem_put.mp among with
    | inl new =>
      rw [new, written]
      exact ⟨plain_t, plain_r, under⟩
    | inr old => exact keyed c old.1
  · funext t r k
    simp only [shown, Contents.after, Table.get?_put, under]
    by_cases plain : PlainName t ∧ PlainName r
    · simp only [if_pos plain, tells _ _ _ _ _ _ plain.1 plain.2 plain_t plain_r]
      split
      · exact congrArg some written
      · rfl
    · have other : ¬ (t = request.tenantId ∧ r = request.runId ∧ k = request.key) := by
        rintro ⟨rfl, rfl, -⟩
        exact plain ⟨plain_t, plain_r⟩
      rw [if_neg plain, if_neg other, if_neg plain]

theorem shown_erase (tells : TellsNames storedKey) (now : Time) {t r : Text} (k : Text)
    (plain_t : PlainName t) (plain_r : PlainName r) :
    shown entryOf storedKey (table.erase (storedKey t r k)) =
      (shown entryOf storedKey table).after now (.delete t r k) := by
  funext t' r' k'
  simp only [shown, Contents.after, Table.get?_erase]
  by_cases plain : PlainName t' ∧ PlainName r'
  · simp only [if_pos plain, tells _ _ _ _ _ _ plain.1 plain.2 plain_t plain_r]
    split
    · rfl
    · rfl
  · simp only [if_neg plain, ite_self]

theorem sameLive_purged (tells : TellsNames storedKey) (keyed : Keyed entryOf storedKey table)
    {now : Time} {kept : β → Bool}
    (expired : ∀ b ∈ table.entries, kept b = false → (entryOf b).isExpired now = true) :
    SameLive now (shown entryOf storedKey (table.filter kept)) (shown entryOf storedKey table) := by
  intro t r k
  ext entry
  rw [live_eq_some, live_eq_some, shown_eq_some tells (keyed.filter kept),
    shown_eq_some tells keyed]
  refine and_congr_left fun fresh => ?_
  constructor
  · rintro ⟨b, among, names⟩
    exact ⟨b, (List.mem_filter.mp among).1, names⟩
  · rintro ⟨b, among, rfl, names⟩
    refine ⟨b, List.mem_filter.mpr ⟨among, ?_⟩, rfl, names⟩
    by_contra dropped
    rw [expired b among (Bool.not_eq_true _ ▸ dropped)] at fresh
    cases fresh

theorem sameLive_tenant (tells : TellsNames storedKey) (keyed : Keyed entryOf storedKey table)
    {now : Time} {t : Text} {kept : β → Bool}
    (others_kept : ∀ b ∈ table.entries, kept b = false → (entryOf b).tenantId = t)
    (dropped : ∀ b ∈ table.entries, (entryOf b).tenantId = t → (entryOf b).isExpired now = false →
      kept b = false) :
    SameLive now (shown entryOf storedKey (table.filter kept))
      ((shown entryOf storedKey table).after now (.deleteForTenant t)) := by
  intro t' r k
  ext entry
  rw [live_eq_some, live_eq_some]
  refine and_congr_left fun fresh => ?_
  rw [shown_eq_some tells (keyed.filter kept)]
  simp only [Contents.after]
  constructor
  · rintro ⟨b, among, rfl, rfl, rfl, rfl⟩
    obtain ⟨among, is_kept⟩ := List.mem_filter.mp among
    rw [if_neg fun same => ?_]
    · exact shown_of_mem tells keyed among
    · rw [dropped b among same fresh] at is_kept
      cases is_kept
  · intro shows
    split at shows
    · cases shows
    · rename_i other
      obtain ⟨b, among, rfl, tenant, names⟩ := (shown_eq_some tells keyed).mp shows
      refine ⟨b, List.mem_filter.mpr ⟨among, ?_⟩, rfl, tenant, names⟩
      by_contra gone
      exact other (tenant.symm.trans (others_kept b among (Bool.not_eq_true _ ▸ gone)))

/-- The live entries of some records of one run, and these are all that are live, make the
listing. -/
theorem answers_of_records (tells : TellsNames storedKey) (keyed : Keyed entryOf storedKey table)
    {now : Time} {t r : Text} {records : List β} (nodup : records.Nodup)
    (members : ∀ b, b ∈ records ↔ b ∈ table.entries ∧ (entryOf b).tenantId = t ∧
      (entryOf b).runId = r ∧ (entryOf b).isExpired now = false) :
    Answers (shown entryOf storedKey table) now (.listForRun t r)
      (.entries (Ranked.orderBy ShortTermMemoryEntry.key (records.map entryOf))) := by
  refine answers_list ?_ fun entry => ?_
  · rw [List.map_map]
    refine List.Nodup.map_on ?_ nodup
    intro b in_b c in_c same_key
    obtain ⟨b_among, b_tenant, b_run, -⟩ := (members b).mp in_b
    obtain ⟨c_among, c_tenant, c_run, -⟩ := (members c).mp in_c
    refine List.inj_on_of_nodup_map table.nodup b_among c_among ?_
    rw [(keyed b b_among).2.2, (keyed c c_among).2.2, b_tenant, b_run, c_tenant, c_run]
    exact congrArg _ same_key
  · rw [List.mem_map]
    constructor
    · rintro ⟨b, among, rfl⟩
      obtain ⟨among, rfl, rfl, fresh⟩ := (members b).mp among
      exact ⟨(entryOf b).key, live_eq_some.mpr ⟨shown_of_mem tells keyed among, fresh⟩⟩
    · rintro ⟨key, shows⟩
      obtain ⟨shows, fresh⟩ := live_eq_some.mp shows
      obtain ⟨b, among, rfl, tenant, run, -⟩ := (shown_eq_some tells keyed).mp shows
      exact ⟨b, (members b).mpr ⟨among, tenant, run, fresh⟩, rfl⟩

theorem answers_of_tenant (tells : TellsNames storedKey) (keyed : Keyed entryOf storedKey table)
    {now : Time} {t : Text} {records : List β} (nodup : records.Nodup)
    (members : ∀ b, b ∈ records ↔ b ∈ table.entries ∧ (entryOf b).tenantId = t ∧
      (entryOf b).isExpired now = false) :
    Answers (shown entryOf storedKey table) now (.deleteForTenant t) (.count records.length) := by
  refine ⟨records.map fun b => ((entryOf b).runId, (entryOf b).key), ?_,
    (List.length_map _).symm, ?_⟩
  · refine List.Nodup.map_on ?_ nodup
    intro b in_b c in_c same
    obtain ⟨b_among, b_tenant, -⟩ := (members b).mp in_b
    obtain ⟨c_among, c_tenant, -⟩ := (members c).mp in_c
    refine List.inj_on_of_nodup_map table.nodup b_among c_among ?_
    rw [(keyed b b_among).2.2, (keyed c c_among).2.2, b_tenant, c_tenant, (Prod.mk.inj same).1,
      (Prod.mk.inj same).2]
  · rintro ⟨r, k⟩
    rw [List.mem_map, Option.isSome_iff_exists]
    constructor
    · rintro ⟨b, among, same⟩
      cases same
      obtain ⟨among, rfl, fresh⟩ := (members b).mp among
      exact ⟨entryOf b, live_eq_some.mpr ⟨shown_of_mem tells keyed among, fresh⟩⟩
    · rintro ⟨entry, shows⟩
      obtain ⟨shows, fresh⟩ := live_eq_some.mp shows
      obtain ⟨b, among, rfl, tenant, rfl, rfl⟩ := (shown_eq_some tells keyed).mp shows
      exact ⟨b, (members b).mpr ⟨among, tenant, fresh⟩, rfl⟩

variable (entryOf) (storedKey) in
def Served (table : Table keyOf) (now : Time) (op : Op V) (served : Result V × Table keyOf) : Prop :=
  Answers (shown entryOf storedKey table) now op served.1 ∧ Keyed entryOf storedKey served.2 ∧
    SameLive now (shown entryOf storedKey served.2) ((shown entryOf storedKey table).after now op)

end Stored

end Taroai.Memory.ShortTerm
