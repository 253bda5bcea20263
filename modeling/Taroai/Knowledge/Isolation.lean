import Taroai.Knowledge.Tenants

/-! Tenants of the knowledge services. The set of hashes in memory is one for all tenants, so a
registration may be refused for a document that another tenant holds; the tables ask for the
tenant's own. -/

namespace Taroai.Knowledge

open Machine (Conforms)
open Unwinding (Fresh answers moves fresh_along)

variable {F : Floats} (lower : String → String) (maxInteger : Nat)

theorem SqlService.known_step (s : SqlService F) (call : Call F) (id : String)
    (known : (s.step lower maxInteger call).2.Known id) : s.Known id ∨ id ∈ call.ids := by
  cases call with
  | createBase tenantId userId request new createdAt =>
    simp only [step, createBase, knowledgeBase] at known
    split at known
    · exact .inl known
    · obtain (⟨base, member, same⟩ | document) | chunk := known
      · obtain rfl | ⟨old, -⟩ := Table.mem_put.mp member
        · exact .inr (same ▸ List.mem_cons_self)
        · exact .inl (.inl (.inl ⟨base, old, same⟩))
      · exact .inl (.inl (.inr document))
      · exact .inl (.inr chunk)
  | registerDocument request marks =>
    simp only [step, registerDocument] at known
    split at known
    · exact .inl known
    split at known
    · exact .inl known
    split at known
    · exact .inl known
    split at known
    · exact .inl known
    split at known
    · obtain (base | ⟨document, member, same⟩) | ⟨chunk, member, same⟩ := known
      · exact .inl (.inl (.inl base))
      · obtain rfl | ⟨old, -⟩ := Table.mem_put.mp member
        · exact .inr (same ▸ List.mem_cons_self)
        · exact .inl (.inl (.inr ⟨document, old, same⟩))
      · obtain old | new := List.mem_append.mp member
        · exact .inl (.inr ⟨chunk, old, same⟩)
        · exact .inr (List.mem_cons_of_mem _ (List.mem_map.mpr ⟨chunk, new, same⟩))
    · exact .inl known
  | retrieve request => exact .inl known
  | deleteForTenant t =>
    obtain (⟨base, member, same⟩ | ⟨document, member, same⟩) | ⟨chunk, member, same⟩ := known
    · exact .inl (.inl (.inl ⟨base, List.mem_of_mem_filter member, same⟩))
    · exact .inl (.inl (.inr ⟨document, List.mem_of_mem_filter member, same⟩))
    · exact .inl (.inr ⟨chunk, List.mem_of_mem_filter member, same⟩)

/-- What the claim asks of a history: each tenant is answered as if alone, by either service, and
the services accept and refuse the same registrations. -/
structure KeptApart (calls : List (Call F)) : Prop where
  memory : ∀ tenantId, (answers (MemoryService.step lower) {} calls).filter
      (fun answer => answer.1.tenantId = tenantId) =
    answers (MemoryService.step lower) {} (calls.filter fun call => call.tenantId = tenantId)
  sql : ∀ tenantId, (answers (SqlService.step lower maxInteger) {} calls).filter
      (fun answer => answer.1.tenantId = tenantId) =
    answers (SqlService.step lower maxInteger) {} (calls.filter fun call => call.tenantId = tenantId)
  registrations : (answers (MemoryService.step lower) {} calls).filterMap accepted =
    (answers (SqlService.step lower maxInteger) {} calls).filterMap accepted

/-- A registration whose base is there brings content that no other tenant holds, and unless the
tenant holds it, a level that the column holds. -/
def Undisputed (s : MemoryService F) : Call F → Prop
  | .registerDocument request _ => checkBase s.bases request = none →
      ¬s.HeldElsewhere request ∧ (s.HasHash request ∨ request.sensitivityLevel ≤ maxInteger)
  | _ => True

section Twins

structure Twin (s : MemoryService F) (t : SqlService F) : Prop where
  bases : s.bases = t.bases
  documents : s.documents = t.documents

variable {lower maxInteger} {s : MemoryService F} {t : SqlService F}

theorem Twin.fresh (twin : Twin s t) {call : Call F} (fresh : t.DrawsFresh call) :
    s.DrawsFresh call := by
  refine ⟨fresh.nodup, fun id new known => fresh.unused id new (.inl ?_)⟩
  rw [MemoryService.Known, twin.bases, twin.documents] at known
  exact known

theorem Twin.hasHash (twin : Twin s t) (request : KnowledgeDocumentCreate F) :
    t.HasHash request ↔ s.HasHash request := by
  unfold SqlService.HasHash MemoryService.HasHash
  rw [twin.documents]

theorem Undisputed.clear {call : Call F} (undisputed : Undisputed maxInteger s call) :
    s.Clear call := by
  cases call with
  | registerDocument request marks => exact fun checked => (undisputed checked).1
  | createBase => trivial
  | retrieve => trivial
  | deleteForTenant => trivial

variable (maxInteger) in
theorem Twin.registered (twin : Twin s t) (inv : s.Inv) {request : KnowledgeDocumentCreate F}
    {marks : Marks} (fresh : t.DrawsFresh (.registerDocument request marks))
    (checked : checkBase s.bases request = none) (elsewhere : ¬s.HeldElsewhere request) :
    s.HasHash request ∧ s.registerDocument request marks = (.error (hashTaken request), s) ∧
        t.registerDocument maxInteger request marks = (.error (hashTaken request), t) ∨
      ¬s.HasHash request ∧
        s.registerDocument request marks = (.document (request.document marks), s.add request marks) ∧
        t.registerDocument maxInteger request marks =
          if maxInteger < request.sensitivityLevel then (.error .overflow, t)
          else (.document (request.document marks),
            t.add request marks (SqlService.fresh_rows fresh)) := by
  have stored : request.contentHash ∈ s.contentHashes ↔ s.HasHash request :=
    inv.mem_hashes.trans (or_iff_left elsewhere)
  rw [MemoryService.registerDocument_eq, SqlService.registerDocument_fresh maxInteger fresh,
    ← twin.bases, checked]
  by_cases own : s.HasHash request
  · exact .inl ⟨own, if_pos (stored.mpr own), if_pos ((twin.hasHash request).mpr own)⟩
  · exact .inr ⟨own, if_neg fun there => own (stored.mp there),
      if_neg fun there => own ((twin.hasHash request).mp there)⟩

variable (lower) in
theorem Twin.step (twin : Twin s t) (inv : s.Inv) {call : Call F} (fresh : t.DrawsFresh call)
    (undisputed : Undisputed maxInteger s call) :
    Twin (s.step lower call).2 (t.step lower maxInteger call).2 ∧
      accepted (call, (s.step lower call).1) = accepted (call, (t.step lower maxInteger call).1) := by
  cases call with
  | createBase tenantId userId request id createdAt =>
    have absent := SqlService.fresh_base fresh
    simp only [SqlService.step, SqlService.createBase, knowledgeBase, absent]
    exact ⟨⟨congrArg (Table.put · _) twin.bases, twin.documents⟩, rfl⟩
  | registerDocument request marks =>
    cases checked : checkBase s.bases request with
    | some raised =>
      simp only [MemoryService.step, SqlService.step]
      rw [MemoryService.registerDocument_eq, SqlService.registerDocument_fresh maxInteger fresh,
        ← twin.bases, checked]
      exact ⟨twin, rfl⟩
    | none =>
      obtain ⟨elsewhere, fits⟩ := undisputed checked
      simp only [MemoryService.step, SqlService.step]
      obtain ⟨-, memory, sql⟩ | ⟨new, memory, sql⟩ :=
        twin.registered maxInteger inv fresh checked elsewhere
      · rw [memory, sql]
        exact ⟨twin, rfl⟩
      · rw [memory, sql, if_neg (not_lt.mpr (fits.resolve_left new))]
        exact ⟨⟨twin.bases, congrArg (Table.put · _) twin.documents⟩, rfl⟩
  | retrieve request => exact ⟨twin, rfl⟩
  | deleteForTenant tenantId =>
    exact ⟨⟨congrArg (Table.filter · _) twin.bases, congrArg (Table.filter · _) twin.documents⟩, rfl⟩

variable (lower) in
/-- A disputed registration is not answered as for the tenant alone, or in memory it succeeds and
in the tables it does not. -/
theorem disputed (twin : Twin s t) (inv : s.Inv) {call : Call F} (fresh : t.DrawsFresh call)
    (undisputed : ¬Undisputed maxInteger s call) :
    (s.step lower call).1 ≠ ((s.view call.tenantId).step lower call).1 ∨
      accepted (call, (s.step lower call).1) = some true ∧
        accepted (call, (t.step lower maxInteger call).1) = some false := by
  cases call with
  | registerDocument request marks =>
    obtain ⟨checked, refused⟩ := Classical.not_imp.mp undisputed
    simp only [MemoryService.step, SqlService.step, Call.tenantId]
    by_cases elsewhere : s.HeldElsewhere request
    · left
      have there : request.contentHash ∈ s.contentHashes := inv.mem_hashes.mpr (.inr elsewhere)
      have alone : request.contentHash ∉ (s.view request.tenantId).contentHashes := fun own =>
        inv.not_both (inv.mem_hashes_view.mp own) elsewhere
      have base : checkBase (s.view request.tenantId).bases request = none :=
        checkBase_own.trans checked
      rw [MemoryService.registerDocument_eq, MemoryService.registerDocument_eq, base, checked]
      dsimp only
      rw [if_pos there, if_neg alone]
      intro same
      cases same
    · right
      obtain ⟨own, -, -⟩ | ⟨new, memory, sql⟩ :=
        twin.registered maxInteger inv fresh checked elsewhere
      · exact absurd ⟨elsewhere, .inl own⟩ refused
      · have large : maxInteger < request.sensitivityLevel := by
          by_contra fits
          exact refused ⟨elsewhere, .inr (not_lt.mp fits)⟩
        rw [memory, sql, if_pos large]
        exact ⟨rfl, rfl⟩
  | createBase => exact absurd trivial undisputed
  | retrieve => exact absurd trivial undisputed
  | deleteForTenant => exact absurd trivial undisputed

theorem filterMap_accepted_cons {call : Call F} {a b : Answer F} (same : accepted (call, a) = accepted (call, b))
    (as bs : List (Call F × Answer F)) :
    ((call, a) :: as).filterMap accepted = ((call, b) :: bs).filterMap accepted ↔
      as.filterMap accepted = bs.filterMap accepted := by
  rw [List.filterMap_cons, List.filterMap_cons, same]
  cases accepted (call, b) with
  | none => rfl
  | some said => simp

theorem apart_iff (twin : Twin s t) (inv : s.Inv) {calls : List (Call F)}
    (unused : ∀ id ∈ calls.flatMap Call.ids, ¬t.Known id) (nodup : FreshIds calls) :
    ((∀ d, (answers (MemoryService.step lower) s calls).filter
          (fun answer => answer.1.tenantId = d) =
        answers (MemoryService.step lower) (s.view d) (calls.filter fun call => call.tenantId = d)) ∧
      (answers (MemoryService.step lower) s calls).filterMap accepted =
        (answers (SqlService.step lower maxInteger) t calls).filterMap accepted) ↔
      Conforms (moves (MemoryService.step lower)) (Undisputed maxInteger) s calls := by
  induction calls generalizing s t with
  | nil => exact iff_of_true ⟨fun _ => rfl, rfl⟩ trivial
  | cons call rest ih =>
    have fresh : t.DrawsFresh call :=
      (fresh_along (SqlService.known_step lower maxInteger) unused nodup _ rfl).1
    have later : ∀ id ∈ rest.flatMap Call.ids, ¬(t.step lower maxInteger call).2.Known id := by
      intro id new known
      obtain old | drawn := SqlService.known_step lower maxInteger t call id known
      · exact unused id (List.mem_append_right _ new) old
      · exact (List.nodup_append.mp nodup).2.2 id drawn id new rfl
    by_cases undisputed : Undisputed maxInteger s call
    · obtain ⟨next, agreed⟩ := twin.step lower inv fresh undisputed
      have own := (MemoryService.unwinds (F := F) lower).answers_cons
        ⟨inv, twin.fresh fresh, undisputed.clear⟩ rest
      have tail := ih next (inv.step lower (twin.fresh fresh)) later (List.nodup_append.mp nodup).2.1
      have split : Conforms (moves (MemoryService.step lower)) (Undisputed maxInteger) s
          (call :: rest) ↔ Conforms (moves (MemoryService.step lower)) (Undisputed maxInteger)
            (s.step lower call).2 rest :=
        ⟨fun along => (along _ rfl).2, fun along => Machine.Along.cons rfl undisputed along⟩
      rw [split, ← tail]
      exact and_congr (forall_congr' own) (filterMap_accepted_cons agreed _ _)
    · refine iff_of_false ?_ fun along => undisputed (along _ rfl).1
      rintro ⟨alone, registrations⟩
      obtain parted | ⟨kept, refused⟩ := disputed lower twin inv fresh undisputed
      · have own := alone call.tenantId
        simp only [answers, decide_true, List.filter_cons_of_pos] at own
        exact parted (Prod.ext_iff.mp (List.cons.inj own).1).2
      · rw [answers, answers, List.filterMap_cons, List.filterMap_cons, kept, refused]
          at registrations
        exact Bool.noConfusion (List.cons.inj registrations).1

end Twins

/-- Tenants are kept apart, and the services accept the same registrations, exactly in the
histories in which every registration is undisputed. The tables keep tenants apart in any. -/
theorem tenants_kept_apart (calls : List (Call F)) (fresh : FreshIds calls) :
    KeptApart lower maxInteger calls ↔
      Conforms (moves (MemoryService.step lower)) (Undisputed maxInteger) {} calls := by
  have twin : Twin ({} : MemoryService F) {} := ⟨rfl, rfl⟩
  have inv : ({} : MemoryService F).Inv := ⟨nofun, nofun, List.nodup_nil, nofun⟩
  have unknown : ∀ id ∈ calls.flatMap Call.ids, ¬({} : SqlService F).Known id := by
    rintro id - ((⟨_, member, -⟩ | ⟨_, member, -⟩) | ⟨_, member, -⟩) <;> cases member
  rw [← apart_iff twin inv unknown fresh]
  constructor
  · exact fun apart => ⟨apart.memory, apart.registrations⟩
  · rintro ⟨memory, registrations⟩
    refine ⟨memory, fun tenantId => ?_, registrations⟩
    exact (SqlService.unwinds lower maxInteger).answers_filter
      (fresh_along (SqlService.known_step lower maxInteger) unknown fresh) tenantId

section Histories

instance (s : MemoryService F) : DecidablePred (Undisputed maxInteger s)
  | .registerDocument request _ =>
    inferInstanceAs (Decidable (checkBase s.bases request = none →
      ¬(∃ document ∈ s.documents.entries,
        document.tenantId ≠ request.tenantId ∧ document.contentHash = request.contentHash) ∧
      ((∃ document ∈ s.documents.entries,
        document.tenantId = request.tenantId ∧ document.contentHash = request.contentHash) ∨
        request.sensitivityLevel ≤ maxInteger)))
  | .createBase .. => isTrue trivial
  | .retrieve _ => isTrue trivial
  | .deleteForTenant _ => isTrue trivial

def createSales (tenantId : String) : Call exactFloats :=
  .createBase tenantId "admin" { workspaceId := "sales", name := "Sales" } (tenantId ++ "-base") 0

def registerPolicy (tenantId contentHash : String) : Call exactFloats :=
  .registerDocument
    { tenantId := tenantId
      workspaceId := "sales"
      knowledgeBaseId := tenantId ++ "-base"
      sourceUri := "crm://policy"
      sourceDocumentId := "policy"
      uploadedByUserId := "admin"
      title := "Refund policy"
      documentVersion := "v1"
      contentHash := contentHash
      chunks := [{ content := "refund policy" }] }
    { id := tenantId ++ "-document"
      createdAt := 1
      chunkId := fun _ => tenantId ++ "-chunk"
      chunkCreatedAt := fun _ => 1 }

def twoTenants (first second : String) : List (Call exactFloats) :=
  [createSales "acme", createSales "globex", registerPolicy "acme" first,
    registerPolicy "globex" second, .deleteForTenant "acme"]

theorem tenants_kept_apart_contents :
    FreshIds (twoTenants "sha256:a" "sha256:b") ∧
      KeptApart id (2 ^ 63 - 1) (twoTenants "sha256:a" "sha256:b") := by
  have fresh : FreshIds (twoTenants "sha256:a" "sha256:b") := by decide +kernel
  refine ⟨fresh, (tenants_kept_apart id (2 ^ 63 - 1) _ fresh).mpr ?_⟩
  decide +kernel

/-- The same content in two tenants: in memory the second registration is refused. -/
theorem same_content_refused :
    ¬∀ calls : List (Call exactFloats), FreshIds calls → KeptApart id (2 ^ 63 - 1) calls := by
  intro apart
  have fresh : FreshIds (twoTenants "sha256:a" "sha256:a") := by decide +kernel
  have said := (apart _ fresh).registrations
  revert said
  decide +kernel

end Histories

end Taroai.Knowledge
