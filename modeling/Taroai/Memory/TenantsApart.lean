import Mathlib
import Taroai.Memory.Shown

/-! Short-term memory keeps tenants and runs apart, in both services: each call is answered alike
by both, and as what was put under the names tells. -/

namespace Taroai.Memory.ShortTerm

variable {V : Type}

namespace InMemory

variable {entries : Entries V} {now : Time}

theorem tells : TellsNames storedKey :=
  fun _ _ k _ _ k' plain_t plain_r plain_t' plain_r' =>
    storedKey_inj k k' plain_t plain_r plain_t' plain_r'

theorem of_run (keyed : Keyed Prod.snd storedKey entries) {t r : Text} (plain_t : PlainName t)
    (plain_r : PlainName r) {p : Text × ShortTermMemoryEntry V} (among : p ∈ entries.entries) :
    (keyPrefix t r).isPrefixOf p.1 = true ↔ p.2.tenantId = t ∧ p.2.runId = r := by
  obtain ⟨plain_t', plain_r', under⟩ := keyed p among
  rw [under, runPrefix_of _ plain_t plain_r plain_t' plain_r', eq_comm, @eq_comm _ r]

theorem of_tenant (keyed : Keyed Prod.snd storedKey entries) {t : Text} (plain_t : PlainName t)
    {p : Text × ShortTermMemoryEntry V} (among : p ∈ entries.entries) :
    (t ++ [':']).isPrefixOf p.1 = true ↔ p.2.tenantId = t := by
  obtain ⟨plain_t', -, under⟩ := keyed p among
  rw [under, tenantPrefix_of _ plain_t plain_t', eq_comm]

theorem get_served (keyed : Keyed Prod.snd storedKey entries) {t r : Text} (k : Text)
    (plain_t : PlainName t) (plain_r : PlainName r) :
    Served Prod.snd storedKey entries now (.get t r k)
      ((get entries now t r k).map .found id) := by
  have shows : shown Prod.snd storedKey entries t r k =
      (Table.get? entries (storedKey t r k)).map Prod.snd := if_pos ⟨plain_t, plain_r⟩
  unfold get
  cases found : Table.get? entries (storedKey t r k) with
  | none =>
    rw [found] at shows
    exact ⟨(congrArg (live now) shows).symm, keyed, fun _ _ _ => rfl⟩
  | some p =>
    rw [found, Option.map_some] at shows
    obtain ⟨among, under⟩ := Table.get?_eq_some.mp found
    have answer := (congrArg (live now) shows).trans (live_some now p.2)
    dsimp only
    by_cases expired : p.2.isExpired now = true
    · rw [if_pos expired] at answer ⊢
      refine ⟨answer.symm, keyed.filter _, sameLive_purged tells keyed fun q among' dropped => ?_⟩
      have same : q.1 = p.1 := (by simpa using dropped : q.1 = storedKey t r k).trans under.symm
      rwa [List.inj_on_of_nodup_map entries.nodup among' among same]
    · rw [if_neg expired] at answer ⊢
      exact ⟨answer.symm, keyed, fun _ _ _ => rfl⟩

theorem listForRun_served (keyed : Keyed Prod.snd storedKey entries) {t r : Text}
    (plain_t : PlainName t) (plain_r : PlainName r) :
    Served Prod.snd storedKey entries now (.listForRun t r)
      ((listForRun entries now t r).map .entries id) := by
  refine ⟨answers_of_records tells keyed (entries.nodup.of_map.filter _) fun p => ?_,
    keyed.filter _, sameLive_purged tells keyed fun p among dropped => ?_⟩
  · rw [List.mem_filter]
    refine and_congr_right fun among => ?_
    rw [Bool.and_eq_true, of_run keyed plain_t plain_r among, Bool.not_eq_true', and_assoc]
  · rw [Bool.not_eq_false', Bool.and_eq_true] at dropped
    exact dropped.2

theorem delete_served (keyed : Keyed Prod.snd storedKey entries) {t r : Text} (k : Text)
    (plain_t : PlainName t) (plain_r : PlainName r)
    (fresh : ∀ p, Table.get? entries (storedKey t r k) = some p → p.2.isExpired now = false) :
    Served Prod.snd storedKey entries now (.delete t r k)
      ((delete entries t r k).map .deleted id) := by
  have shows : shown Prod.snd storedKey entries t r k =
      (Table.get? entries (storedKey t r k)).map Prod.snd := if_pos ⟨plain_t, plain_r⟩
  unfold delete
  cases found : Table.get? entries (storedKey t r k) with
  | none =>
    rw [found] at shows
    refine ⟨(congrArg (fun o => (live now o).isSome) shows).symm, keyed, fun t' r' k' => ?_⟩
    simp only [Contents.after]
    by_cases same : t' = t ∧ r' = r ∧ k' = k
    · rw [if_pos same, same.1, same.2.1, same.2.2]
      exact congrArg (live now) shows
    · rw [if_neg same]
      rfl
  | some p =>
    rw [found, Option.map_some] at shows
    have answer := congrArg Option.isSome ((congrArg (live now) shows).trans (live_some now p.2))
    rw [fresh p found] at answer
    refine ⟨answer.symm, keyed.filter _, fun t' r' k' => ?_⟩
    exact congrArg (fun contents => live now (contents t' r' k'))
      (shown_erase tells now k plain_t plain_r)

theorem deleteForTenant_served (keyed : Keyed Prod.snd storedKey entries) {t : Text}
    (plain_t : PlainName t)
    (fresh : ∀ p ∈ entries.entries, p.2.tenantId = t → p.2.isExpired now = false) :
    Served Prod.snd storedKey entries now (.deleteForTenant t)
      ((deleteForTenant entries t).map .count id) := by
  refine ⟨answers_of_tenant tells keyed (entries.nodup.of_map.filter _) fun p => ?_,
    keyed.filter _, sameLive_tenant tells keyed (fun p among dropped => ?_)
      fun p among tenant _ => ?_⟩
  · rw [List.mem_filter]
    refine and_congr_right fun among => ?_
    rw [of_tenant keyed plain_t among]
    exact ⟨fun tenant => ⟨tenant, fresh p among tenant⟩, fun both => both.1⟩
  · rw [Bool.not_eq_false', of_tenant keyed plain_t among] at dropped
    exact dropped
  · rw [Bool.not_eq_false']
    exact (of_tenant keyed plain_t among).mpr tenant

end InMemory

namespace Redis

variable {service : Service V} {db : Db V} {now : Time}

theorem tells (service : Service V) : TellsNames (storedKey service) :=
  fun _ _ k _ _ k' plain_t plain_r plain_t' plain_r' =>
    storedKey_inj service k k' plain_t plain_r plain_t' plain_r'

def Timed (db : Db V) : Prop := ∀ record ∈ db.entries, record.expiresMs = record.entry.expiresAt / 1000

theorem Timed.filter (timed : Timed db) (kept : Record V → Bool) : Timed (Table.filter db kept) :=
  fun record among => timed record (List.mem_filter.mp among).1

theorem Timed.visible (timed : Timed db) {record : Record V} (among : record ∈ db.entries)
    (fresh : record.entry.isExpired now = false) : record.visible now = true := by
  simp only [ShortTermMemoryEntry.isExpired, decide_eq_false_iff_not, not_le] at fresh
  have order : now / 1000 ≤ record.entry.expiresAt / 1000 :=
    Int.ediv_le_ediv (by decide) (le_of_lt fresh)
  simp only [Record.visible, timed record among, Bool.not_eq_true', decide_eq_false_iff_not, not_lt]
  exact order

theorem clientGet_eq_some {key : Text} {entry : ShortTermMemoryEntry V} :
    clientGet db now key = some entry ↔
      ∃ record ∈ db.entries, record.key = key ∧ record.visible now = true ∧ record.entry = entry := by
  simp only [clientGet, Option.map_eq_some_iff, Option.filter_eq_some_iff, Table.get?_eq_some]
  constructor
  · rintro ⟨record, ⟨⟨among, under⟩, visible⟩, same⟩
    exact ⟨record, among, under, visible, same⟩
  · rintro ⟨record, among, under, visible, same⟩
    exact ⟨record, ⟨⟨among, under⟩, visible⟩, same⟩

theorem same_record {record record' : Record V} (among : record ∈ db.entries)
    (among' : record' ∈ db.entries) (same : record.key = record'.key) : record = record' :=
  List.inj_on_of_nodup_map db.nodup among among' same

theorem foldl_erase (keys : List Text) :
    keys.foldl Table.erase db = Table.filter db fun record => !keys.contains record.key := by
  induction keys generalizing db with
  | nil =>
    refine Table.ext ?_
    simp [Table.filter]
  | cons key keys ih =>
    rw [List.foldl_cons, ih]
    refine Table.ext ?_
    simp only [Table.filter, Table.erase, List.filter_filter]
    refine List.filter_congr fun record _ => ?_
    by_cases same : record.key = key <;> simp [same]

variable (now) in
theorem readScanned_spec (keys : List Text) (nodup : keys.Nodup) (db : Db V) :
    ∃ records : List (Record V), records.Nodup ∧
      (readScanned now db keys).1 = records.map Record.entry ∧
      (∀ record, record ∈ records ↔ record ∈ db.entries ∧ record.key ∈ keys ∧
        record.visible now = true ∧ record.entry.isExpired now = false) ∧
      (readScanned now db keys).2 = Table.filter db fun record =>
        !(keys.contains record.key && record.visible now && record.entry.isExpired now) := by
  induction keys generalizing db with
  | nil =>
    refine ⟨[], List.nodup_nil, rfl, by simp, Table.ext ?_⟩
    simp [readScanned, Table.filter]
  | cons key keys ih =>
    obtain ⟨new, distinct_keys⟩ := List.nodup_cons.mp nodup
    rw [readScanned]
    cases found : clientGet db now key with
    | none =>
      obtain ⟨records, distinct, entries, members, after⟩ := ih distinct_keys db
      have gone : ∀ record ∈ db.entries, record.key = key → record.visible now = false := by
        intro record among under
        by_contra visible
        rw [clientGet_eq_some.mpr ⟨record, among, under, Bool.not_eq_false _ ▸ visible, rfl⟩] at found
        cases found
      refine ⟨records, distinct, entries, fun record => (members record).trans ?_, after.trans ?_⟩
      · refine and_congr_right fun among => ?_
        rw [List.mem_cons]
        refine ⟨fun kept => ⟨.inr kept.1, kept.2⟩, ?_⟩
        rintro ⟨listed, visible, fresh⟩
        cases listed with
        | inl same =>
          rw [gone record among same] at visible
          cases visible
        | inr listed => exact ⟨listed, visible, fresh⟩
      · refine Table.ext (List.filter_congr fun record among => ?_)
        by_cases same : record.key = key
        · simp [gone record among same]
        · simp [same]
    | some entry =>
      obtain ⟨first, among, rfl, visible, rfl⟩ := clientGet_eq_some.mp found
      have only : ∀ record ∈ db.entries, record.key = first.key → record = first :=
        fun record among' same => same_record among' among same
      dsimp only
      by_cases expired : first.entry.isExpired now = true
      · rw [if_pos expired]
        obtain ⟨records, distinct, entries, members, after⟩ := ih distinct_keys (Table.erase db first.key)
        refine ⟨records, distinct, entries, fun record => (members record).trans ?_, after.trans ?_⟩
        · rw [List.mem_cons]
          constructor
          · rintro ⟨kept, listed, shows⟩
            exact ⟨(List.mem_filter.mp kept).1, .inr listed, shows⟩
          · rintro ⟨among', listed, shows, fresh⟩
            cases listed with
            | inl same =>
              rw [only record among' same, expired] at fresh
              cases fresh
            | inr listed =>
              refine ⟨List.mem_filter.mpr ⟨among', ?_⟩, listed, shows, fresh⟩
              exact decide_eq_true fun same : record.key = first.key => new (same ▸ listed)
        · refine Table.ext ?_
          simp only [Table.filter, Table.erase, List.filter_filter]
          refine List.filter_congr fun record among' => ?_
          by_cases same : record.key = first.key
          · rw [only record among' same]
            simp [visible, expired]
          · simp [same]
      · rw [if_neg expired]
        obtain ⟨records, distinct, entries, members, after⟩ := ih distinct_keys db
        refine ⟨first :: records, List.nodup_cons.mpr ⟨fun listed => ?_, distinct⟩, ?_,
          fun record => ?_, after.trans ?_⟩
        · exact new ((members first).mp listed).2.1
        · exact congrArg (first.entry :: ·) entries
        · rw [List.mem_cons, members record, List.mem_cons]
          constructor
          · rintro (rfl | ⟨among', listed, shows⟩)
            · exact ⟨among, .inl rfl, visible, Bool.not_eq_true _ ▸ expired⟩
            · exact ⟨among', .inr listed, shows⟩
          · rintro ⟨among', listed, shows⟩
            cases listed with
            | inl same => exact .inl (only record among' same)
            | inr listed => exact .inr ⟨among', listed, shows⟩
        · refine Table.ext (List.filter_congr fun record among' => ?_)
          by_cases same : record.key = first.key
          · rw [only record among' same]
            simp [expired]
          · simp [same]

theorem mem_scanned {scanned : List Text} {pattern : Text}
    (scans : scanned.Perm (matching service db now pattern)) {record : Record V}
    (among : record ∈ db.entries) :
    record.key ∈ scanned ↔
      record.visible now = true ∧ service.glob.covers pattern record.key = true := by
  rw [scans.mem_iff, matching, List.mem_map]
  constructor
  · rintro ⟨record', kept, same⟩
    obtain ⟨among', kept⟩ := List.mem_filter.mp kept
    rw [same_record among' among same, Bool.and_eq_true] at kept
    exact kept
  · intro kept
    exact ⟨record, List.mem_filter.mpr ⟨among, Bool.and_eq_true _ _ ▸ kept⟩, rfl⟩

theorem nodup_scanned {scanned : List Text} {pattern : Text}
    (scans : scanned.Perm (matching service db now pattern)) : scanned.Nodup :=
  scans.nodup_iff.mpr ((List.filter_sublist.map Record.key).nodup db.nodup)

theorem purged (keyed : Keyed Record.entry (storedKey service) db) (key : Text) {entry : ShortTermMemoryEntry V}
    (found : clientGet db now key = some entry) (expired : entry.isExpired now = true) :
    SameLive now (shown Record.entry (storedKey service) (Table.erase db key))
      (shown Record.entry (storedKey service) db) := by
  obtain ⟨record, among, rfl, -, rfl⟩ := clientGet_eq_some.mp found
  refine sameLive_purged (tells service) keyed fun record' among' dropped => ?_
  have same : record'.key = record.key := by simpa using dropped
  rwa [same_record among' among same]

theorem of_run (keyed : Keyed Record.entry (storedKey service) db)
    (literal : ∀ c ∈ service.keyPrefix, c ∉ globSpecial) {t r : Text} (plain_t : PlainName t) (plain_r : PlainName r) {scanned : List Text}
    (scans : scanned.Perm (matching service db now (runPrefix service t r ++ ['*'])))
    {record : Record V} (among : record ∈ db.entries) :
    record.key ∈ scanned ↔
      record.visible now = true ∧ record.entry.tenantId = t ∧ record.entry.runId = r := by
  obtain ⟨plain_t', plain_r', under⟩ := keyed record among
  rw [mem_scanned scans among, (covers_literal service literal plain_t plain_r _).1, under,
    runPrefix_of service _ plain_t plain_r plain_t' plain_r', @eq_comm _ t, @eq_comm _ r]

theorem of_tenant (keyed : Keyed Record.entry (storedKey service) db)
    (literal : ∀ c ∈ service.keyPrefix, c ∉ globSpecial) {t : Text} (plain_t : PlainName t) {scanned : List Text}
    (scans : scanned.Perm (matching service db now (tenantPrefix service t ++ ['*'])))
    {record : Record V} (among : record ∈ db.entries) :
    record.key ∈ scanned ↔ record.visible now = true ∧ record.entry.tenantId = t := by
  obtain ⟨plain_t', -, under⟩ := keyed record among
  rw [mem_scanned scans among, (covers_literal service literal plain_t plain_t _).2, under,
    tenantPrefix_of service _ plain_t plain_t', @eq_comm _ t]

section
variable (timed : Timed db)
include timed

theorem shown_visible (t r k : Text) (plain_t : PlainName t) (plain_r : PlainName r) :
    live now (clientGet db now (storedKey service t r k)) =
      live now (shown Record.entry (storedKey service) db t r k) := by
  ext entry
  rw [live_eq_some, live_eq_some, clientGet_eq_some, shown, if_pos ⟨plain_t, plain_r⟩,
    Option.map_eq_some_iff]
  refine and_congr_left fun fresh => ?_
  simp only [Table.get?_eq_some]
  constructor
  · rintro ⟨record, among, under, -, rfl⟩
    exact ⟨record, ⟨among, under⟩, rfl⟩
  · rintro ⟨record, ⟨among, under⟩, rfl⟩
    exact ⟨record, among, under, timed.visible among fresh, rfl⟩

variable (keyed : Keyed Record.entry (storedKey service) db)
include keyed

theorem put_served (request : ShortTermMemoryWrite V) (plain_t : PlainName request.tenantId)
    (plain_r : PlainName request.runId) (survives : service.reread request.value = request.value) :
    Served Record.entry (storedKey service) db now (.put request)
        ((put service db now request).map .stored id) ∧
      Timed (put service db now request).2 := by
  have written : ({ ShortTermMemoryEntry.fromWrite request now with
      value := service.reread (ShortTermMemoryEntry.fromWrite request now).value } :
        ShortTermMemoryEntry V) = ShortTermMemoryEntry.fromWrite request now := by
    simp only [ShortTermMemoryEntry.fromWrite, survives]
  have stored := shown_put (tells service) keyed now plain_t plain_r
    (b := (⟨storedKey service request.tenantId request.runId request.key,
      { ShortTermMemoryEntry.fromWrite request now with
        value := service.reread (ShortTermMemoryEntry.fromWrite request now).value },
      now / 1000 + 1000 * request.ttlSeconds⟩ : Record V)) rfl written
  refine ⟨⟨rfl, stored.1, fun t r k => ?_⟩, fun record among => ?_⟩
  · exact congrArg (fun contents => live now (contents t r k)) stored.2
  · cases Table.mem_put.mp among with
    | inl new =>
      rw [new]
      have milliseconds : seconds request.ttlSeconds = 1000 * (request.ttlSeconds : Int) * 1000 := by
        show ((request.ttlSeconds : Int) * 1000000 : Int) = _
        omega
      show now / 1000 + 1000 * (request.ttlSeconds : Int) = (now + seconds request.ttlSeconds) / 1000
      rw [milliseconds, Int.add_mul_ediv_right _ _ (by decide)]
    | inr old => exact timed record old.1

theorem get_served {t r : Text} (k : Text) (plain_t : PlainName t) (plain_r : PlainName r) :
    Served Record.entry (storedKey service) db now (.get t r k)
        ((get service db now t r k).map .found id) ∧
      Timed (get service db now t r k).2 := by
  have shows : live now (clientGet db now (storedKey service t r k)) =
      live now (shown Record.entry (storedKey service) db t r k) :=
    shown_visible timed t r k plain_t plain_r
  unfold get
  cases found : clientGet db now (storedKey service t r k) with
  | none =>
    rw [found] at shows
    exact ⟨⟨shows, keyed, fun _ _ _ => rfl⟩, timed⟩
  | some entry =>
    rw [found, live_some] at shows
    dsimp only
    by_cases expired : entry.isExpired now = true
    · rw [if_pos expired] at shows ⊢
      exact ⟨⟨shows, keyed.filter _, purged keyed _ found expired⟩, timed.filter _⟩
    · rw [if_neg expired] at shows ⊢
      exact ⟨⟨shows, keyed, fun _ _ _ => rfl⟩, timed⟩

theorem delete_served {t r : Text} (k : Text) (plain_t : PlainName t) (plain_r : PlainName r)
    (fresh : ∀ entry, clientGet db now (storedKey service t r k) = some entry →
      entry.isExpired now = false) :
    Served Record.entry (storedKey service) db now (.delete t r k)
        ((delete service db now t r k).map .deleted id) ∧
      Timed (delete service db now t r k).2 := by
  have shows : live now (clientGet db now (storedKey service t r k)) =
      live now (shown Record.entry (storedKey service) db t r k) :=
    shown_visible timed t r k plain_t plain_r
  unfold delete
  cases found : clientGet db now (storedKey service t r k) with
  | none =>
    rw [found] at shows
    refine ⟨⟨congrArg Option.isSome shows, keyed, fun t' r' k' => ?_⟩, timed⟩
    simp only [Contents.after]
    by_cases same : t' = t ∧ r' = r ∧ k' = k
    · rw [if_pos same, same.1, same.2.1, same.2.2]
      exact shows.symm
    · rw [if_neg same]
      rfl
  | some entry =>
    rw [found, live_some, fresh entry found] at shows
    refine ⟨⟨congrArg Option.isSome shows, keyed.filter _, fun t' r' k' => ?_⟩, timed.filter _⟩
    exact congrArg (fun contents => live now (contents t' r' k'))
      (shown_erase (tells service) now k plain_t plain_r)

variable (literal : ∀ c ∈ service.keyPrefix, c ∉ globSpecial)
include literal

theorem listForRun_served {t r : Text} (plain_t : PlainName t) (plain_r : PlainName r)
    {scanned : List Text}
    (scans : scanned.Perm (matching service db now (runPrefix service t r ++ ['*']))) :
    Served Record.entry (storedKey service) db now (.listForRun t r)
        ((listForRun db now scanned).map .entries id) ∧
      Timed (listForRun db now scanned).2 := by
  obtain ⟨records, nodup, entries, members, after⟩ :=
    readScanned_spec now scanned (nodup_scanned scans) db
  have listed : listForRun db now scanned =
      (Ranked.orderBy ShortTermMemoryEntry.key (records.map Record.entry),
        (readScanned now db scanned).2) := by
    rw [← entries]
    rfl
  rw [listed, after]
  refine ⟨⟨answers_of_records (tells service) keyed nodup fun record => ?_, keyed.filter _,
    sameLive_purged (tells service) keyed fun record _ dropped => ?_⟩, timed.filter _⟩
  · rw [members]
    refine and_congr_right fun among => ?_
    rw [of_run keyed literal plain_t plain_r scans among]
    constructor
    · rintro ⟨⟨-, tenant, run⟩, -, fresh⟩
      exact ⟨tenant, run, fresh⟩
    · rintro ⟨tenant, run, fresh⟩
      have visible := timed.visible among fresh
      exact ⟨⟨visible, tenant, run⟩, visible, fresh⟩
  · rw [Bool.not_eq_false', Bool.and_eq_true] at dropped
    exact dropped.2

theorem deleteForTenant_served {t : Text} (plain_t : PlainName t) {scanned : List Text}
    (scans : scanned.Perm (matching service db now (tenantPrefix service t ++ ['*'])))
    (fresh : ∀ record ∈ db.entries, record.visible now = true → record.entry.tenantId = t →
      record.entry.isExpired now = false) :
    Served Record.entry (storedKey service) db now (.deleteForTenant t)
        ((deleteForTenant db scanned).map .count id) ∧
      Timed (deleteForTenant db scanned).2 := by
  have after : deleteForTenant db scanned = (scanned.length,
      Table.filter db fun record => !scanned.contains record.key) := by
    rw [deleteForTenant, foldl_erase]
  have in_scan : ∀ record ∈ db.entries, scanned.contains record.key = true ↔
      record.visible now = true ∧ record.entry.tenantId = t := by
    intro record among
    rw [List.contains_iff_mem, of_tenant keyed literal plain_t scans among]
  have counted : scanned.length =
      (db.entries.filter fun record => scanned.contains record.key).length := by
    rw [scans.length_eq, matching, List.length_map]
    refine congrArg List.length (List.filter_congr fun record among => ?_)
    rw [Bool.eq_iff_iff, Bool.and_eq_true, List.contains_iff_mem, mem_scanned scans among]
  rw [after, counted]
  refine ⟨⟨answers_of_tenant (tells service) keyed (db.nodup.of_map.filter _) fun record => ?_,
    keyed.filter _, sameLive_tenant (tells service) keyed (fun record among dropped => ?_)
      fun record among tenant shows => ?_⟩, timed.filter _⟩
  · rw [List.mem_filter]
    refine and_congr_right fun among => ?_
    rw [in_scan record among]
    constructor
    · rintro ⟨visible, tenant⟩
      exact ⟨tenant, fresh record among visible tenant⟩
    · rintro ⟨tenant, not_expired⟩
      exact ⟨timed.visible among not_expired, tenant⟩
  · rw [Bool.not_eq_false', in_scan record among] at dropped
    exact dropped.2
  · rw [Bool.not_eq_false', in_scan record among]
    exact ⟨timed.visible among shows, tenant⟩

end

end Redis

structure Services (V : Type) where
  clock : Time
  contents : Contents V
  memory : InMemory.Entries V
  redis : Redis.Db V

namespace Services

def start (clock : Time) : Services V where
  clock
  contents := fun _ _ _ => none
  memory := Table.empty
  redis := Table.empty

variable (service : Redis.Service V)

def step (s : Services V) (call : Call V) : Option (Services V) := some {
  clock := call.now
  contents := s.contents.after call.now call.op
  memory := (InMemory.perform s.memory call).2
  redis := (Redis.perform service s.redis call).2 }

def Fresh (s : Services V) (now : Time) : Op V → Prop
  | .delete t r k =>
    (∀ p, Table.get? s.memory (InMemory.storedKey t r k) = some p → p.2.isExpired now = false) ∧
      ∀ entry, Redis.clientGet s.redis now (Redis.storedKey service t r k) = some entry →
        entry.isExpired now = false
  | .deleteForTenant t =>
    (∀ p ∈ s.memory.entries, p.2.tenantId = t → p.2.isExpired now = false) ∧
      ∀ record ∈ s.redis.entries, record.visible now = true → record.entry.tenantId = t →
        record.entry.isExpired now = false
  | _ => True

/-- The clock does not run backwards, names are plain, nothing that has expired is deleted, and
`SCAN` reports each matching key once. -/
structure Allowed (s : Services V) (call : Call V) : Prop where
  forward : s.clock ≤ call.now
  named : call.op.Named service
  fresh : s.Fresh service call.now call.op
  scans : ∀ pattern, Redis.pattern service call.op = some pattern →
    call.scanned.Perm (Redis.matching service s.redis call.now pattern)

structure Kept (s : Services V) : Prop where
  memory_keyed : Keyed Prod.snd InMemory.storedKey s.memory
  redis_keyed : Keyed Redis.Record.entry (Redis.storedKey service) s.redis
  redis_timed : Redis.Timed s.redis
  memory_shows : SameLive s.clock (shown Prod.snd InMemory.storedKey s.memory) s.contents
  redis_shows :
    SameLive s.clock (shown Redis.Record.entry (Redis.storedKey service) s.redis) s.contents

/-- The call is answered alike and as it should be, and both services show the same after it. -/
def Agreed (s : Services V) (call : Call V) (s' : Services V) : Prop :=
  (InMemory.perform s.memory call).1 = (Redis.perform service s.redis call).1 ∧
    Answers s.contents call.now call.op (InMemory.perform s.memory call).1 ∧
    SameLive call.now (shown Prod.snd InMemory.storedKey s'.memory) s'.contents ∧
    SameLive call.now (shown Redis.Record.entry (Redis.storedKey service) s'.redis) s'.contents

variable {service}

theorem memory_served {s : Services V} {call : Call V} (kept : s.Kept service)
    (allowed : s.Allowed service call) :
    Served Prod.snd InMemory.storedKey s.memory call.now call.op
      (InMemory.perform s.memory call) := by
  have keyed := kept.memory_keyed
  have named := allowed.named
  have fresh := allowed.fresh
  obtain ⟨op, now, scanned⟩ := call
  cases op with
  | put request =>
    have stored := shown_put InMemory.tells keyed now named.1 named.2.1
      (b := (InMemory.storedKey request.tenantId request.runId request.key,
        ShortTermMemoryEntry.fromWrite request now)) rfl rfl
    exact ⟨rfl, stored.1, fun t r k => congrArg (fun contents => live now (contents t r k)) stored.2⟩
  | get t r k => exact InMemory.get_served keyed k named.1 named.2
  | listForRun t r => exact InMemory.listForRun_served keyed named.1 named.2
  | delete t r k => exact InMemory.delete_served keyed k named.1 named.2 fresh.1
  | deleteForTenant t => exact InMemory.deleteForTenant_served keyed named fresh.1

theorem redis_served (literal : ∀ c ∈ service.keyPrefix, c ∉ globSpecial) {s : Services V}
    {call : Call V} (kept : s.Kept service) (allowed : s.Allowed service call) :
    Served Redis.Record.entry (Redis.storedKey service) s.redis call.now call.op
        (Redis.perform service s.redis call) ∧
      Redis.Timed (Redis.perform service s.redis call).2 := by
  have keyed := kept.redis_keyed
  have timed := kept.redis_timed
  have named := allowed.named
  have fresh := allowed.fresh
  have scans := allowed.scans
  obtain ⟨op, now, scanned⟩ := call
  cases op with
  | put request => exact Redis.put_served timed keyed request named.1 named.2.1 named.2.2
  | get t r k => exact Redis.get_served timed keyed k named.1 named.2
  | listForRun t r =>
    exact Redis.listForRun_served timed keyed literal named.1 named.2 (scans _ rfl)
  | delete t r k => exact Redis.delete_served timed keyed k named.1 named.2 fresh.2
  | deleteForTenant t =>
    exact Redis.deleteForTenant_served timed keyed literal named (scans _ rfl) fresh.2

theorem kept_step (literal : ∀ c ∈ service.keyPrefix, c ∉ globSpecial) {s s' : Services V}
    {call : Call V} (kept : s.Kept service) (allowed : s.Allowed service call)
    (moved : s.step service call = some s') : s'.Kept service ∧ s.Agreed service call s' := by
  cases moved
  have in_memory := memory_served kept allowed
  have in_redis := redis_served literal kept allowed
  have memory_before := kept.memory_shows.later allowed.forward
  have redis_before := kept.redis_shows.later allowed.forward
  have memory_after : SameLive call.now _ (s.contents.after call.now call.op) :=
    fun t r k => (in_memory.2.2 t r k).trans (memory_before.after call.op t r k)
  have redis_after : SameLive call.now _ (s.contents.after call.now call.op) :=
    fun t r k => (in_redis.1.2.2 t r k).trans (redis_before.after call.op t r k)
  have memory_answer := memory_before.answers in_memory.1
  have redis_answer := redis_before.answers in_redis.1.1
  refine ⟨⟨in_memory.2.1, in_redis.1.2.1, in_redis.2, memory_after, redis_after⟩, ?_⟩
  exact ⟨memory_answer.unique redis_answer, memory_answer, memory_after, redis_after⟩

/-- In every run of calls that are allowed, both services answer alike and as they should. -/
theorem runs_apart (service : Redis.Service V) (literal : ∀ c ∈ service.keyPrefix, c ∉ globSpecial)
    (clock : Time) (calls : List (Call V))
    (allowed : Machine.Conforms (step service) (fun s call => s.Allowed service call) (start clock)
      calls) :
    Machine.Along (step service) (fun s call s' => s.Agreed service call s') (start clock) calls := by
  have init : Kept service (start clock) := {
    memory_keyed := fun b among => nomatch among
    redis_keyed := fun b among => nomatch among
    redis_timed := fun b among => nomatch among
    memory_shows := fun t r k => by simp [shown, start]
    redis_shows := fun t r k => by simp [shown, start] }
  refine Machine.Along.of_invariant (fun s call s' kept here moved => ?_) init allowed
  exact kept_step literal kept here moved

end Services

/-! A run that is kept apart, and one whose run id has a `:`. -/

def prefixGlob : Glob where
  covers pattern key := pattern.dropLast.isPrefixOf key
  literal text key _ := by simp

def sampleService : Redis.Service Nat where
  keyPrefix := "taroai:short_term_memory".toList
  glob := prefixGlob
  reread := id

def putOf (tenantId runId key : String) (value : Nat) : Op Nat := .put {
  tenantId := tenantId.toList
  workspaceId := "workspace".toList
  runId := runId.toList
  key := key.toList
  value
  ttl_pos := Nat.succ_pos 3599 }

theorem runs_apart_two_tenants :
    Machine.Along (Services.step sampleService) (fun s call s' => s.Agreed sampleService call s')
      (Services.start 0) [
        { op := putOf "acme" "run" "a:b" 1, now := 0 },
        { op := .get "globex".toList "run".toList "a:b".toList, now := 1 }] := by
  refine Services.runs_apart sampleService (forall_mem_of_all (by decide)) 0 _ ?_
  refine fun s moved => ⟨⟨by decide, ⟨by decide, by decide, rfl⟩, trivial, nofun⟩, fun s' moved' => ?_⟩
  cases moved
  exact ⟨⟨by decide, ⟨by decide, by decide⟩, trivial, nofun⟩, trivial⟩

/-- After an entry has been put for `run:1`. -/
def dividedRun : Services Nat where
  clock := 0
  contents := Contents.after (fun _ _ _ => none) 0 (putOf "acme" "run:1" "k" 7)
  memory := (InMemory.perform Table.empty { op := putOf "acme" "run:1" "k" 7, now := 0 }).2
  redis := (Redis.perform sampleService Table.empty { op := putOf "acme" "run:1" "k" 7, now := 0 }).2

/-- The entry is listed for `run`, by the service in memory only. -/
theorem divided_run_listed :
    (Services.start 0).step sampleService { op := putOf "acme" "run:1" "k" 7, now := 0 } =
        some dividedRun ∧
      Redis.matching sampleService dividedRun.redis 1
        (Redis.runPrefix sampleService "acme".toList "run".toList ++ ['*']) = [] ∧
      (InMemory.perform dividedRun.memory
        { op := .listForRun "acme".toList "run".toList, now := 1 }).1 ≠
        (Redis.perform sampleService dividedRun.redis
          { op := .listForRun "acme".toList "run".toList, now := 1 }).1 ∧
      ¬ Answers dividedRun.contents 1 (.listForRun "acme".toList "run".toList)
        (InMemory.perform dividedRun.memory
          { op := .listForRun "acme".toList "run".toList, now := 1 }).1 := by
  have stored : ((dividedRun.memory.entries.filter fun p =>
      (InMemory.keyPrefix "acme".toList "run".toList).isPrefixOf p.1 && !p.2.isExpired 1).map
        Prod.snd).map ShortTermMemoryEntry.value = [7] := by decide +kernel
  obtain ⟨entry, only, -⟩ := List.map_eq_singleton_iff.mp stored
  have listed : (InMemory.perform dividedRun.memory
      { op := .listForRun "acme".toList "run".toList, now := 1 }).1 = .entries [entry] := by
    show Result.entries (Ranked.orderBy _ _) = _
    rw [only, Ranked.orderBy, List.mergeSort_singleton]
  have unlisted : (Redis.perform sampleService dividedRun.redis
      { op := .listForRun "acme".toList "run".toList, now := 1 }).1 = .entries [] := by
    show Result.entries (Ranked.orderBy _ []) = _
    rw [Ranked.orderBy, List.mergeSort_nil]
  refine ⟨rfl, by decide +kernel, ?_, ?_⟩
  · rw [listed, unlisted]
    simp
  · rw [listed]
    intro answered
    obtain ⟨key, shows⟩ := (answered.2 entry).mp List.mem_cons_self
    have absent : dividedRun.contents "acme".toList "run".toList key = none := by
      dsimp only [dividedRun, putOf, Contents.after]
      rw [if_neg fun same => absurd same.2.1 (by decide)]
    rw [absent] at shows
    cases shows

end Taroai.Memory.ShortTerm
