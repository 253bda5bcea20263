import Taroai.Knowledge.Noninterference
import Taroai.Knowledge.Services

/-! What one tenant's calls show of the others'. The view of a tenant is what the service would
hold if only that tenant had called it. -/

namespace Taroai.Knowledge

open Machine (Conforms)
open Unwinding (Fresh Unwinds answers after moves)

variable {F : Floats}

section Bases

variable {bases : Table KnowledgeBase.id} {request : KnowledgeDocumentCreate F}

theorem checkBase_own :
    checkBase (bases.filter fun base => base.tenantId = request.tenantId) request =
      checkBase bases request := by
  unfold checkBase
  rw [Table.get?_filter]
  cases bases.get? request.knowledgeBaseId with
  | none => rfl
  | some base =>
    by_cases own : base.tenantId = request.tenantId
    · simp [Option.filter, own]
    · simp [Option.filter, own]

theorem filter_own_filter {κ β : Type*} {key : β → κ} (table : Table key) (tenantId : β → String)
    (t : String) :
    (table.filter fun b => tenantId b = t).filter (fun b => tenantId b = t) =
      table.filter fun b => tenantId b = t :=
  Table.filter_filter_of_imp fun _ own => own

theorem filter_other_filter {κ β : Type*} {key : β → κ} (table : Table key)
    (tenantId : β → String) {t d : String} (other : t ≠ d) :
    (table.filter fun b => tenantId b ≠ t).filter (fun b => tenantId b = d) =
      table.filter fun b => tenantId b = d := by
  refine Table.filter_filter_of_imp fun b own => ?_
  rw [decide_eq_true_eq] at own ⊢
  exact own ▸ other.symm

theorem baseIds_own (bases : Table KnowledgeBase.id) (t : String) :
    baseIds (bases.filter fun base => base.tenantId = t) t = baseIds bases t := by
  unfold baseIds
  rw [filter_own_filter bases KnowledgeBase.tenantId]

theorem documentIds_own (documents : Table KnowledgeDocument.id) (t : String) :
    documentIds (documents.filter fun document => document.tenantId = t) t =
      documentIds documents t := by
  unfold documentIds
  rw [filter_own_filter documents KnowledgeDocument.tenantId]

def Named (bases : Table KnowledgeBase.id) (documents : Table KnowledgeDocument.id) (id : String) :
    Prop :=
  (∃ base ∈ bases.entries, base.id = id) ∨ ∃ document ∈ documents.entries, document.id = id

end Bases

namespace SqlService

variable (lower : String → String) (maxInteger : Nat)

def view (t : String) (s : SqlService F) : SqlService F where
  bases := s.bases.filter fun base => base.tenantId = t
  documents := s.documents.filter fun document => document.tenantId = t
  chunks := ⟨s.chunks.rows.filter fun chunk => chunk.tenantId = t,
    (List.filter_sublist.map DocumentChunk.id).nodup s.chunks.ids⟩

def Known (s : SqlService F) (id : String) : Prop :=
  Named s.bases s.documents id ∨ ∃ chunk ∈ s.chunks.rows, chunk.id = id

theorem ext_rows {s t : SqlService F} (bases : s.bases = t.bases)
    (documents : s.documents = t.documents) (rows : s.chunks.rows = t.chunks.rows) : s = t := by
  obtain ⟨_, _, _, _⟩ := s
  obtain ⟨_, _, _, _⟩ := t
  cases bases
  cases documents
  cases rows
  rfl

variable {s : SqlService F} {request : KnowledgeDocumentCreate F} {marks : Marks}

abbrev DrawsFresh (s : SqlService F) (call : Call F) : Prop := Fresh Call.ids Known s call

theorem fresh_rows (fresh : DrawsFresh s (.registerDocument request marks)) :
    ((s.chunks.rows ++ request.documentChunks marks).map DocumentChunk.id).Nodup := by
  rw [List.map_append, List.nodup_append]
  refine ⟨s.chunks.ids, (List.nodup_cons.mp fresh.nodup).2, ?_⟩
  rintro id stored _ new rfl
  obtain ⟨chunk, member, same⟩ := List.mem_map.mp stored
  exact fresh.unused id (List.mem_cons_of_mem _ new) (.inr ⟨chunk, member, same⟩)

theorem fresh_document (fresh : DrawsFresh s (.registerDocument request marks)) :
    s.documents.get? marks.id = none := by
  rw [Table.get?_eq_none]
  intro document member same
  exact fresh.unused marks.id List.mem_cons_self (.inl (.inr ⟨document, member, same⟩))

theorem fresh_base {tenantId userId : String} {base : KnowledgeBaseCreate} {id : String}
    {createdAt : Time} (fresh : DrawsFresh s (.createBase tenantId userId base id createdAt)) :
    s.bases.get? id = none := by
  rw [Table.get?_eq_none]
  intro stored member same
  exact fresh.unused id List.mem_cons_self (.inl (.inl ⟨stored, member, same⟩))

def HasHash (s : SqlService F) (request : KnowledgeDocumentCreate F) : Prop :=
  ∃ document ∈ s.documents.entries,
    document.tenantId = request.tenantId ∧ document.contentHash = request.contentHash

instance (s : SqlService F) (request : KnowledgeDocumentCreate F) : Decidable (s.HasHash request) :=
  inferInstanceAs (Decidable (∃ document ∈ s.documents.entries, _))

def add (s : SqlService F) (request : KnowledgeDocumentCreate F) (marks : Marks)
    (ids : ((s.chunks.rows ++ request.documentChunks marks).map DocumentChunk.id).Nodup) :
    SqlService F :=
  { s with
    documents := s.documents.put (request.document marks)
    chunks := ⟨s.chunks.rows ++ request.documentChunks marks, ids⟩ }

theorem registerDocument_fresh (fresh : DrawsFresh s (.registerDocument request marks)) :
    s.registerDocument maxInteger request marks =
      match checkBase s.bases request with
      | some raised => (.error raised, s)
      | none =>
        if s.HasHash request then (.error (hashTaken request), s)
        else if maxInteger < request.sensitivityLevel then (.error .overflow, s)
        else (.document (request.document marks), s.add request marks (fresh_rows fresh)) := by
  unfold registerDocument
  cases checkBase s.bases request with
  | some raised => rfl
  | none =>
    simp only [fresh_document fresh, dif_pos (fresh_rows fresh)]
    rfl

theorem view_fresh {call : Call F} (t : String) (fresh : DrawsFresh s call) :
    DrawsFresh (s.view t) call := by
  refine ⟨fresh.nodup, fun id new known => fresh.unused id new ?_⟩
  obtain (⟨base, member, same⟩ | ⟨document, member, same⟩) | ⟨chunk, member, same⟩ := known
  · exact .inl (.inl ⟨base, List.mem_of_mem_filter member, same⟩)
  · exact .inl (.inr ⟨document, List.mem_of_mem_filter member, same⟩)
  · exact .inr ⟨chunk, List.mem_of_mem_filter member, same⟩

theorem hasHash_view : (s.view request.tenantId).HasHash request ↔ s.HasHash request := by
  constructor
  · rintro ⟨document, member, own, same⟩
    exact ⟨document, List.mem_of_mem_filter member, own, same⟩
  · rintro ⟨document, member, own, same⟩
    exact ⟨document, List.mem_filter.mpr ⟨member, decide_eq_true own⟩, own, same⟩

theorem documentChunks_tenant {chunk : DocumentChunk F}
    (made : chunk ∈ request.documentChunks marks) : chunk.tenantId = request.tenantId := by
  obtain ⟨n, content, rfl⟩ := mem_documentChunks made
  rfl

theorem view_add_own (fresh : DrawsFresh s (.registerDocument request marks)) :
    (s.view request.tenantId).add request marks (fresh_rows (view_fresh _ fresh)) =
      (s.add request marks (fresh_rows fresh)).view request.tenantId := by
  refine ext_rows rfl ?_ ?_
  · change (s.documents.filter _).put _ = (s.documents.put _).filter _
    rw [Table.filter_put_new (fresh_document fresh)]
    exact (if_pos (decide_eq_true rfl)).symm
  · change s.chunks.rows.filter _ ++ _ = (s.chunks.rows ++ _).filter _
    rw [List.filter_append]
    congr 1
    refine (List.filter_eq_self.mpr fun chunk made => ?_).symm
    exact decide_eq_true (documentChunks_tenant made)

theorem view_add_other {t : String} (other : request.tenantId ≠ t)
    (fresh : DrawsFresh s (.registerDocument request marks)) :
    (s.add request marks (fresh_rows fresh)).view t = s.view t := by
  refine ext_rows rfl ?_ ?_
  · change (s.documents.put _).filter _ = s.documents.filter _
    rw [Table.filter_put_new (fresh_document fresh)]
    exact if_neg fun own => other (of_decide_eq_true own)
  · change (s.chunks.rows ++ _).filter _ = s.chunks.rows.filter _
    rw [List.filter_append]
    refine List.append_right_eq_self.mpr (List.filter_eq_nil_iff.mpr fun chunk made => ?_)
    rw [documentChunks_tenant made]
    simpa using other

theorem retrieve_view (request : RetrievalRequest F) :
    (s.view request.tenantId).chunks.retrieve lower request = s.chunks.retrieve lower request := by
  unfold SqlKnowledgeService.retrieve SqlKnowledgeService.select view
  simp only [List.filter_filter, Bool.and_self]

theorem deleteForTenant_own (t : String) :
    (s.view t).deleteForTenant t = ((s.deleteForTenant t).1, (s.deleteForTenant t).2.view t) := by
  refine Prod.ext ?_ (ext_rows ?_ ?_ ?_)
  · change Answer.deleted _ = Answer.deleted _
    unfold view
    rw [baseIds_own, documentIds_own, List.countP_filter]
    simp only [Bool.and_self]
  · exact Table.filter_filter_comm _ _ _
  · exact Table.filter_filter_comm _ _ _
  · change (s.chunks.rows.filter _).filter _ = (s.chunks.rows.filter _).filter _
    rw [List.filter_filter, List.filter_filter]
    exact List.filter_congr fun _ _ => Bool.and_comm _ _

theorem deleteForTenant_other {t d : String} (other : t ≠ d) :
    (s.deleteForTenant t).2.view d = s.view d := by
  apply ext_rows
  · exact filter_other_filter _ KnowledgeBase.tenantId other
  · exact filter_other_filter _ KnowledgeDocument.tenantId other
  · change (s.chunks.rows.filter _).filter _ = s.chunks.rows.filter _
    rw [List.filter_filter]
    refine List.filter_congr fun chunk _ => ?_
    by_cases own : chunk.tenantId = d
    · simp [own, other.symm]
    · simp [own]

theorem unwinds : Unwinds (step (F := F) lower maxInteger) Call.tenantId view DrawsFresh where
  own s call fresh := by
    cases call with
    | createBase tenantId userId request id createdAt =>
      have absent := fresh_base fresh
      have absent_view := fresh_base (view_fresh tenantId fresh)
      simp only [step, createBase, Call.tenantId, knowledgeBase, absent, absent_view]
      refine Prod.ext rfl (ext_rows ?_ rfl rfl)
      change (s.bases.filter _).put _ = (s.bases.put _).filter _
      rw [Table.filter_put_new absent]
      exact (if_pos (decide_eq_true rfl)).symm
    | registerDocument request marks =>
      simp only [step, Call.tenantId]
      rw [registerDocument_fresh maxInteger (view_fresh _ fresh),
        registerDocument_fresh maxInteger fresh, view_add_own fresh]
      have base : checkBase (s.view request.tenantId).bases request = checkBase s.bases request :=
        checkBase_own
      rw [base]
      cases checkBase s.bases request with
      | some raised => rfl
      | none =>
        simp only [hasHash_view]
        split
        · rfl
        · split <;> rfl
    | retrieve request =>
      exact Prod.ext (congrArg Answer.results (retrieve_view lower request)) rfl
    | deleteForTenant t => exact deleteForTenant_own t
  other s call d fresh other := by
    cases call with
    | createBase tenantId userId request id createdAt =>
      have absent := fresh_base fresh
      simp only [step, createBase, knowledgeBase, absent]
      refine ext_rows ?_ rfl rfl
      change (s.bases.put _).filter _ = s.bases.filter _
      rw [Table.filter_put_new absent]
      exact if_neg fun own => other (of_decide_eq_true own)
    | registerDocument request marks =>
      simp only [step]
      rw [registerDocument_fresh maxInteger fresh]
      cases checkBase s.bases request with
      | some raised => rfl
      | none =>
        dsimp only
        split
        · rfl
        · split
          · rfl
          · exact view_add_other other fresh
    | retrieve request => rfl
    | deleteForTenant t => exact deleteForTenant_other other

end SqlService

namespace MemoryService

variable (lower : String → String) {s : MemoryService F} {request : KnowledgeDocumentCreate F}
  {marks : Marks}

theorem mem_ownDocuments {t : String} {document : KnowledgeDocument} :
    document ∈ s.ownDocuments t ↔ document ∈ s.documents.entries ∧ document.tenantId = t := by
  unfold ownDocuments Table.filter
  rw [List.mem_filter, decide_eq_true_eq]

def view (t : String) (s : MemoryService F) : MemoryService F where
  bases := s.bases.filter fun base => base.tenantId = t
  documents := s.documents.filter fun document => document.tenantId = t
  chunks := s.chunks.filter fun entry => entry.1 ∈ (s.ownDocuments t).map KnowledgeDocument.id
  contentHashes := s.contentHashes.filter fun contentHash =>
    contentHash ∈ (s.ownDocuments t).map KnowledgeDocument.contentHash

theorem ext_fields {s t : MemoryService F} (bases : s.bases = t.bases)
    (documents : s.documents = t.documents) (chunks : s.chunks = t.chunks)
    (hashes : s.contentHashes = t.contentHashes) : s = t := by
  cases s
  cases t
  cases bases
  cases documents
  cases chunks
  cases hashes
  rfl

def Known (s : MemoryService F) (id : String) : Prop := Named s.bases s.documents id

abbrev DrawsFresh (s : MemoryService F) (call : Call F) : Prop := Fresh Call.ids Known s call

/-- The set of hashes is that of the documents, no two documents have one hash, and the chunks
under an identifier are those of the document with it. -/
structure Inv (s : MemoryService F) : Prop where
  stored : ∀ document ∈ s.documents.entries, document.contentHash ∈ s.contentHashes
  held : ∀ contentHash ∈ s.contentHashes, ∃ document ∈ s.documents.entries,
    document.contentHash = contentHash
  distinct : (s.documents.entries.map KnowledgeDocument.contentHash).Nodup
  kept : ∀ entry ∈ s.chunks.entries, ∃ document ∈ s.documents.entries,
    document.id = entry.1 ∧ ∀ chunk ∈ entry.2, chunk.tenantId = document.tenantId

def HeldElsewhere (s : MemoryService F) (request : KnowledgeDocumentCreate F) : Prop :=
  ∃ document ∈ s.documents.entries,
    document.tenantId ≠ request.tenantId ∧ document.contentHash = request.contentHash

def HasHash (s : MemoryService F) (request : KnowledgeDocumentCreate F) : Prop :=
  ∃ document ∈ s.documents.entries,
    document.tenantId = request.tenantId ∧ document.contentHash = request.contentHash

theorem Inv.mem_hashes (inv : Inv s) :
    request.contentHash ∈ s.contentHashes ↔ s.HasHash request ∨ s.HeldElsewhere request := by
  constructor
  · intro there
    obtain ⟨document, member, same⟩ := inv.held _ there
    by_cases own : document.tenantId = request.tenantId
    · exact .inl ⟨document, member, own, same⟩
    · exact .inr ⟨document, member, own, same⟩
  · rintro (⟨document, member, -, same⟩ | ⟨document, member, -, same⟩)
    · exact same ▸ inv.stored document member
    · exact same ▸ inv.stored document member

theorem Inv.not_both (inv : Inv s) (own : s.HasHash request) : ¬s.HeldElsewhere request := by
  obtain ⟨document, member, tenant, same⟩ := own
  rintro ⟨other, there, elsewhere, equal⟩
  have : document = other :=
    List.inj_on_of_nodup_map inv.distinct member there (same.trans equal.symm)
  exact elsewhere (this ▸ tenant)

theorem Inv.mem_hashes_view (inv : Inv s) :
    request.contentHash ∈ (s.view request.tenantId).contentHashes ↔ s.HasHash request := by
  unfold view
  rw [Finset.mem_filter, List.mem_map]
  constructor
  · rintro ⟨-, document, own, same⟩
    obtain ⟨member, tenant⟩ := mem_ownDocuments.mp own
    exact ⟨document, member, tenant, same⟩
  · rintro ⟨document, member, tenant, same⟩
    refine ⟨same ▸ inv.stored document member, document, ?_, same⟩
    exact mem_ownDocuments.mpr ⟨member, tenant⟩

def add (s : MemoryService F) (request : KnowledgeDocumentCreate F) (marks : Marks) :
    MemoryService F :=
  { s with
    documents := s.documents.put (request.document marks)
    chunks := s.chunks.put (marks.id, request.documentChunks marks)
    contentHashes := insert request.contentHash s.contentHashes }

theorem registerDocument_eq :
    s.registerDocument request marks =
      match checkBase s.bases request with
      | some raised => (.error raised, s)
      | none =>
        if request.contentHash ∈ s.contentHashes then (.error (hashTaken request), s)
        else (.document (request.document marks), s.add request marks) := rfl

theorem fresh_document (fresh : DrawsFresh s (.registerDocument request marks)) :
    s.documents.get? marks.id = none := by
  rw [Table.get?_eq_none]
  intro document member same
  exact fresh.unused marks.id List.mem_cons_self (.inr ⟨document, member, same⟩)

theorem fresh_base {tenantId userId : String} {base : KnowledgeBaseCreate} {id : String}
    {createdAt : Time} (fresh : DrawsFresh s (.createBase tenantId userId base id createdAt)) :
    s.bases.get? id = none := by
  rw [Table.get?_eq_none]
  intro stored member same
  exact fresh.unused id List.mem_cons_self (.inl ⟨stored, member, same⟩)

theorem Inv.chunks_unused (inv : Inv s) {id : String} (unused : s.documents.get? id = none) :
    s.chunks.get? id = none := by
  rw [Table.get?_eq_none] at unused ⊢
  intro entry member same
  obtain ⟨document, there, key, -⟩ := inv.kept entry member
  exact unused document there (key.trans same)

theorem ownDocuments_add (unused : s.documents.get? marks.id = none) (t : String) :
    (s.add request marks).ownDocuments t =
      if request.tenantId = t then s.ownDocuments t ++ [request.document marks]
      else s.ownDocuments t := by
  have apart : (s.documents.filter fun document => document.tenantId = t).get?
      (request.document marks).id = none := by
    rw [Table.get?_filter]
    exact congrArg (Option.filter _) unused
  unfold ownDocuments
  change ((s.documents.put _).filter _).entries = _
  rw [Table.filter_put_new (show s.documents.get? (request.document marks).id = none from unused),
    document_tenantId]
  by_cases own : request.tenantId = t
  · rw [if_pos own, if_pos (decide_eq_true own), Table.entries_put_new apart]
  · rw [if_neg own, if_neg fun same => own (of_decide_eq_true same)]

theorem mem_add {document : KnowledgeDocument} (unused : s.documents.get? marks.id = none) :
    document ∈ (s.add request marks).documents.entries ↔
      document ∈ s.documents.entries ∨ document = request.document marks := by
  change document ∈ (s.documents.put _).entries ↔ _
  rw [Table.entries_put_new (show s.documents.get? (request.document marks).id = none from unused),
    List.mem_append, List.mem_singleton]

theorem Inv.add (inv : Inv s) (unused : s.documents.get? marks.id = none)
    (new : request.contentHash ∉ s.contentHashes) : Inv (s.add request marks) where
  stored document member := by
    obtain old | rfl := (mem_add unused).mp member
    · exact Finset.mem_insert_of_mem (inv.stored document old)
    · exact Finset.mem_insert_self _ _
  held contentHash there := by
    obtain rfl | old := Finset.mem_insert.mp there
    · exact ⟨request.document marks, (mem_add unused).mpr (.inr rfl), rfl⟩
    · obtain ⟨document, member, same⟩ := inv.held contentHash old
      exact ⟨document, (mem_add unused).mpr (.inl member), same⟩
  distinct := by
    change ((s.documents.put _).entries.map _).Nodup
    rw [Table.entries_put_new (show s.documents.get? (request.document marks).id = none from unused),
      List.map_append, List.nodup_append]
    refine ⟨inv.distinct, List.nodup_singleton _, ?_⟩
    rintro _ old _ only rfl
    obtain ⟨document, member, same⟩ := List.mem_map.mp old
    rw [List.map_singleton, List.mem_singleton, document_contentHash] at only
    exact new (only ▸ same ▸ inv.stored document member)
  kept entry member := by
    change entry ∈ (s.chunks.put _).entries at member
    rw [Table.entries_put_new (inv.chunks_unused unused), List.mem_append, List.mem_singleton]
      at member
    obtain old | rfl := member
    · obtain ⟨document, there, key, tenants⟩ := inv.kept entry old
      exact ⟨document, (mem_add unused).mpr (.inl there), key, tenants⟩
    · exact ⟨request.document marks, (mem_add unused).mpr (.inr rfl), rfl,
        fun chunk made => SqlService.documentChunks_tenant made⟩

theorem Inv.delete (inv : Inv s) (t : String) : Inv (s.deleteForTenant t).2 where
  stored document member := by
    obtain ⟨there, kept⟩ := List.mem_filter.mp member
    refine Finset.mem_filter.mpr ⟨inv.stored document there, fun listed => ?_⟩
    obtain ⟨other, own, same⟩ := List.mem_map.mp listed
    obtain ⟨present, tenant⟩ := mem_ownDocuments.mp own
    have : other = document := List.inj_on_of_nodup_map inv.distinct present there same
    exact of_decide_eq_true kept (this ▸ tenant)
  held contentHash there := by
    obtain ⟨old, unlisted⟩ := Finset.mem_filter.mp there
    obtain ⟨document, member, same⟩ := inv.held contentHash old
    refine ⟨document, List.mem_filter.mpr ⟨member, decide_eq_true fun own => unlisted ?_⟩, same⟩
    exact List.mem_map.mpr ⟨document, mem_ownDocuments.mpr ⟨member, own⟩, same⟩
  distinct := (List.filter_sublist.map KnowledgeDocument.contentHash).nodup inv.distinct
  kept entry member := by
    obtain ⟨there, unlisted⟩ := List.mem_filter.mp member
    obtain ⟨document, present, key, tenants⟩ := inv.kept entry there
    refine ⟨document, List.mem_filter.mpr ⟨present, decide_eq_true fun own => ?_⟩, key, tenants⟩
    refine of_decide_eq_true unlisted (List.mem_map.mpr ⟨document, ?_, key⟩)
    exact mem_ownDocuments.mpr ⟨present, own⟩

theorem Inv.step (inv : Inv s) {call : Call F} (fresh : DrawsFresh s call) :
    Inv (s.step lower call).2 := by
  cases call with
  | createBase tenantId userId request id createdAt => exact ⟨inv.stored, inv.held, inv.distinct, inv.kept⟩
  | registerDocument request marks =>
    simp only [MemoryService.step]
    rw [registerDocument_eq]
    cases checkBase s.bases request with
    | some raised => exact inv
    | none =>
      dsimp only
      split
      · exact inv
      · next new => exact inv.add (fresh_document fresh) new
  | retrieve request => exact inv
  | deleteForTenant t => exact inv.delete t

theorem view_add_own (inv : Inv s) (unused : s.documents.get? marks.id = none)
    (new : request.contentHash ∉ s.contentHashes) :
    (s.view request.tenantId).add request marks = (s.add request marks).view request.tenantId := by
  have own : (s.add request marks).ownDocuments request.tenantId = _ :=
    ownDocuments_add unused request.tenantId
  rw [if_pos rfl] at own
  refine ext_fields rfl ?_ ?_ ?_
  · change (s.documents.filter _).put _ = (s.documents.put _).filter _
    rw [Table.filter_put_new (show s.documents.get? (request.document marks).id = none from unused)]
    exact (if_pos (decide_eq_true rfl)).symm
  · change (s.chunks.filter _).put _ = (s.chunks.put _).filter _
    rw [Table.filter_put_new (inv.chunks_unused unused), own]
    rw [if_pos (by simp)]
    congr 1
    ext1
    refine List.filter_congr fun entry member => decide_eq_decide.mpr ?_
    have apart := Table.get?_eq_none.mp (inv.chunks_unused unused) entry member
    rw [List.map_append, List.mem_append, List.map_singleton, List.mem_singleton]
    exact (or_iff_left apart).symm
  · change insert _ (s.contentHashes.filter _) = (insert _ s.contentHashes).filter _
    rw [own, Finset.filter_insert, if_pos (by simp)]
    congr 1
    refine Finset.filter_congr fun contentHash there => ?_
    rw [List.map_append, List.mem_append, List.map_singleton, List.mem_singleton,
      document_contentHash]
    exact (or_iff_left fun same : contentHash = request.contentHash => new (same ▸ there)).symm

theorem view_add_other {t : String} (other : request.tenantId ≠ t) (inv : Inv s)
    (unused : s.documents.get? marks.id = none) (new : request.contentHash ∉ s.contentHashes) :
    (s.add request marks).view t = s.view t := by
  have own : (s.add request marks).ownDocuments t = _ := ownDocuments_add unused t
  rw [if_neg other] at own
  refine ext_fields rfl ?_ ?_ ?_
  · change (s.documents.put _).filter _ = s.documents.filter _
    rw [Table.filter_put_new (show s.documents.get? (request.document marks).id = none from unused)]
    exact if_neg fun own => other (of_decide_eq_true own)
  · change (s.chunks.put _).filter _ = s.chunks.filter _
    rw [Table.filter_put_new (inv.chunks_unused unused), own]
    refine if_neg fun listed => ?_
    obtain ⟨document, own, same⟩ := List.mem_map.mp (of_decide_eq_true listed)
    exact Table.get?_eq_none.mp unused document (mem_ownDocuments.mp own).1 same
  · change (insert _ s.contentHashes).filter _ = s.contentHashes.filter _
    rw [own, Finset.filter_insert]
    refine if_neg fun listed => ?_
    obtain ⟨document, own, same⟩ := List.mem_map.mp listed
    exact new (same ▸ inv.stored document (mem_ownDocuments.mp own).1)

theorem ownDocuments_view (t : String) : (s.view t).ownDocuments t = s.ownDocuments t :=
  congrArg Table.entries (filter_own_filter s.documents KnowledgeDocument.tenantId t)

theorem filter_flatMap_filter {α β : Type*} {entries : List α} {pieces : α → List β}
    {p : α → Bool} {q : β → Bool}
    (empties : ∀ entry ∈ entries, ¬p entry = true → (pieces entry).filter q = []) :
    ((entries.filter p).flatMap pieces).filter q = (entries.flatMap pieces).filter q := by
  induction entries with
  | nil => rfl
  | cons entry rest ih =>
    have later := ih fun other member => empties other (List.mem_cons_of_mem _ member)
    by_cases kept : p entry = true
    · rw [List.filter_cons_of_pos kept, List.flatMap_cons, List.flatMap_cons, List.filter_append,
        List.filter_append, later]
    · rw [List.filter_cons_of_neg kept, List.flatMap_cons, List.filter_append,
        empties entry List.mem_cons_self kept, List.nil_append, later]

theorem readable_view (inv : Inv s) (request : RetrievalRequest F) :
    ((s.view request.tenantId).chunks.entries.flatMap Prod.snd).filter
        (fun chunk => canRead chunk request) =
      (s.chunks.entries.flatMap Prod.snd).filter fun chunk => canRead chunk request := by
  refine filter_flatMap_filter fun entry member dropped => ?_
  obtain ⟨document, there, key, tenants⟩ := inv.kept entry member
  refine List.filter_eq_nil_iff.mpr fun chunk listed readable => dropped (decide_eq_true ?_)
  have own := ((canRead_iff chunk request).mp readable).tenant
  rw [tenants chunk listed] at own
  exact List.mem_map.mpr ⟨document, mem_ownDocuments.mpr ⟨there, own⟩, key⟩

theorem retrieve_view (inv : Inv s) (request : RetrievalRequest F) :
    (s.view request.tenantId).retrieve lower request = s.retrieve lower request :=
  retrieveChunks_congr lower request (readable_view inv request)

theorem chunkCount_view (t : String) : (s.view t).chunkCount t = s.chunkCount t := by
  unfold chunkCount
  rw [ownDocuments_view]
  refine congrArg List.sum (List.map_congr_left fun document own => ?_)
  have listed : document.id ∈ (s.ownDocuments t).map KnowledgeDocument.id :=
    List.mem_map_of_mem own
  change (((s.chunks.filter _).get? document.id).map _).getD 0 = _
  rw [Table.get?_filter]
  cases found : s.chunks.get? document.id with
  | none => rfl
  | some entry =>
    have key : entry.1 = document.id := Table.key_of_get? found
    have kept : decide (entry.1 ∈ (s.ownDocuments t).map KnowledgeDocument.id) = true :=
      decide_eq_true (key ▸ listed)
    simp only [Option.filter, kept, if_true]

theorem deleteForTenant_own (t : String) :
    (s.view t).deleteForTenant t = ((s.deleteForTenant t).1, (s.deleteForTenant t).2.view t) := by
  have none_left : (s.deleteForTenant t).2.ownDocuments t = [] := by
    refine List.eq_nil_iff_forall_not_mem.mpr fun document own => ?_
    obtain ⟨left, tenant⟩ := mem_ownDocuments.mp own
    exact of_decide_eq_true (List.mem_filter.mp left).2 tenant
  refine Prod.ext ?_ (ext_fields ?_ ?_ ?_ ?_)
  · change Answer.deleted _ = Answer.deleted _
    rw [chunkCount_view]
    unfold view
    rw [baseIds_own, documentIds_own]
  · exact Table.filter_filter_comm _ _ _
  · exact Table.filter_filter_comm _ _ _
  · change (s.chunks.filter _).filter _ = (s.chunks.filter _).filter _
    rw [none_left, ownDocuments_view]
    ext1
    change (s.chunks.entries.filter _).filter _ = (s.chunks.entries.filter _).filter _
    rw [List.filter_filter, List.filter_filter]
    refine List.filter_congr fun entry _ => ?_
    simp
  · change (s.contentHashes.filter _).filter _ = (s.contentHashes.filter _).filter _
    rw [none_left, ownDocuments_view, Finset.filter_filter, Finset.filter_filter]
    refine Finset.filter_congr fun contentHash _ => ?_
    simp

theorem ownDocuments_delete {t d : String} (other : t ≠ d) :
    (s.deleteForTenant t).2.ownDocuments d = s.ownDocuments d :=
  congrArg Table.entries (filter_other_filter s.documents KnowledgeDocument.tenantId other)

theorem deleteForTenant_other (inv : Inv s) {t d : String} (other : t ≠ d) :
    (s.deleteForTenant t).2.view d = s.view d := by
  refine ext_fields ?_ ?_ ?_ ?_
  · exact filter_other_filter _ KnowledgeBase.tenantId other
  · exact filter_other_filter _ KnowledgeDocument.tenantId other
  · change (s.chunks.filter _).filter _ = s.chunks.filter _
    rw [ownDocuments_delete other]
    refine Table.filter_filter_of_imp fun entry listed => decide_eq_true fun deleted => ?_
    obtain ⟨document, own, key⟩ := List.mem_map.mp (of_decide_eq_true listed)
    obtain ⟨gone, there, same⟩ := List.mem_map.mp deleted
    obtain ⟨member, tenant⟩ := mem_ownDocuments.mp own
    obtain ⟨present, elsewhere⟩ := mem_ownDocuments.mp there
    have : gone = document :=
      List.inj_on_of_nodup_map s.documents.nodup present member (same.trans key.symm)
    exact other (elsewhere.symm.trans (this ▸ tenant))
  · change (s.contentHashes.filter _).filter _ = s.contentHashes.filter _
    rw [ownDocuments_delete other, Finset.filter_filter]
    refine Finset.filter_congr fun contentHash _ => and_iff_right_of_imp fun listed deleted => ?_
    obtain ⟨document, own, key⟩ := List.mem_map.mp listed
    obtain ⟨gone, there, same⟩ := List.mem_map.mp deleted
    obtain ⟨member, tenant⟩ := mem_ownDocuments.mp own
    obtain ⟨present, elsewhere⟩ := mem_ownDocuments.mp there
    have : gone = document :=
      List.inj_on_of_nodup_map inv.distinct present member (same.trans key.symm)
    exact other (elsewhere.symm.trans (this ▸ tenant))

/-- A registration whose base is there meets no document of another tenant with its content. -/
def Clear (s : MemoryService F) : Call F → Prop
  | .registerDocument request _ => checkBase s.bases request = none → ¬s.HeldElsewhere request
  | _ => True

/-- The service in memory answers a tenant by what is the tenant's own as long as no content is
met that another tenant holds. -/
theorem unwinds : Unwinds (step (F := F) lower) Call.tenantId view
    fun s call => Inv s ∧ DrawsFresh s call ∧ Clear s call where
  own s call holds := by
    obtain ⟨inv, fresh, clear⟩ := holds
    cases call with
    | createBase tenantId userId request id createdAt =>
      refine Prod.ext rfl (ext_fields ?_ rfl rfl rfl)
      change (s.bases.filter _).put _ = (s.bases.put _).filter _
      rw [Table.filter_put_new (fresh_base fresh)]
      exact (if_pos (decide_eq_true rfl)).symm
    | registerDocument request marks =>
      simp only [step, Call.tenantId]
      rw [registerDocument_eq, registerDocument_eq]
      have base : checkBase (s.view request.tenantId).bases request = checkBase s.bases request :=
        checkBase_own
      rw [base]
      cases checked : checkBase s.bases request with
      | some raised => rfl
      | none =>
        have same : request.contentHash ∈ (s.view request.tenantId).contentHashes ↔
            request.contentHash ∈ s.contentHashes := by
          rw [inv.mem_hashes_view, inv.mem_hashes]
          exact (or_iff_left (clear checked)).symm
        simp only [same]
        split
        · rfl
        · next new => exact Prod.ext rfl (view_add_own inv (fresh_document fresh) new)
    | retrieve request =>
      exact Prod.ext (congrArg Answer.results (retrieve_view lower inv request)) rfl
    | deleteForTenant t => exact deleteForTenant_own t
  other s call d holds other := by
    obtain ⟨inv, fresh, -⟩ := holds
    cases call with
    | createBase tenantId userId request id createdAt =>
      refine ext_fields ?_ rfl rfl rfl
      change (s.bases.put _).filter _ = s.bases.filter _
      rw [Table.filter_put_new (fresh_base fresh)]
      exact if_neg fun own => other (of_decide_eq_true own)
    | registerDocument request marks =>
      simp only [step]
      rw [registerDocument_eq]
      cases checkBase s.bases request with
      | some raised => rfl
      | none =>
        dsimp only
        split
        · rfl
        · next new => exact view_add_other other inv (fresh_document fresh) new
    | retrieve request => rfl
    | deleteForTenant t => exact deleteForTenant_other inv other

end MemoryService

end Taroai.Knowledge
