import Taroai.Connectors.Sync
import Taroai.Knowledge.Tenants

/-! Access to synchronised documents. The subjects of a document are those that the mapping gives
to its source principals; a document without subjects is open to every caller of its tenant. -/

namespace Taroai.Connectors

open Knowledge

variable {F : Floats}

section Mapping

variable {rules : List (String × String)} {principals : List String} {subject : String}

theorem mem_mapPrincipals :
    subject ∈ Workers.mapPrincipals rules principals ↔ ∃ principal ∈ principals,
      (rules.reverse.find? fun rule => rule.1 = principal).map Prod.snd = some subject := by
  have grown {grow : List String → String → List String}
      (spec : ∀ subjects principal, subject ∈ grow subjects principal ↔ subject ∈ subjects ∨
        (rules.reverse.find? fun rule => rule.1 = principal).map Prod.snd = some subject)
      (subjects : List String) : subject ∈ principals.foldl grow subjects ↔ subject ∈ subjects ∨
        ∃ principal ∈ principals,
          (rules.reverse.find? fun rule => rule.1 = principal).map Prod.snd = some subject := by
    induction principals generalizing subjects with
    | nil => simp
    | cons principal rest ih => rw [List.foldl_cons, ih, spec, List.exists_mem_cons_iff, or_assoc]
  unfold Workers.mapPrincipals
  rw [grown]
  · simp
  · intro subjects principal
    cases found : rules.reverse.find? fun rule => rule.1 = principal with
    | none => simp
    | some rule =>
      obtain ⟨source, given⟩ := rule
      simp only [Option.map_some, Option.some.injEq]
      split
      · next listed => exact (or_iff_left_of_imp fun same => same ▸ listed).symm
      · rw [List.mem_append, List.mem_singleton, eq_comm (a := subject)]

end Mapping

namespace ConnectorAclMapping

theorem mem_mapPrincipals {mapping : ConnectorAclMapping} {principals : List SourceAclPrincipal}
    {subject : String} :
    subject ∈ mapping.mapPrincipals principals ↔
      ∃ principal ∈ principals, mapping.subjectOf principal = some subject := by
  unfold mapPrincipals subjectOf
  simp only [Connectors.mem_mapPrincipals, List.mem_map, exists_exists_and_eq_and,
    ← List.map_reverse, List.find?_map, Option.map_map]
  rfl

theorem mapPrincipals_eq_nil {mapping : ConnectorAclMapping}
    {principals : List SourceAclPrincipal} :
    mapping.mapPrincipals principals = [] ↔
      ∀ principal ∈ principals, mapping.subjectOf principal = none := by
  rw [List.eq_nil_iff_forall_not_mem]
  constructor
  · intro nobody principal listed
    refine Option.eq_none_iff_forall_ne_some.mpr fun subject given => ?_
    exact nobody subject (mem_mapPrincipals.mpr ⟨principal, listed, given⟩)
  · intro unmapped subject mapped
    obtain ⟨principal, listed, given⟩ := mem_mapPrincipals.mp mapped
    rw [unmapped principal listed] at given
    cases given

end ConnectorAclMapping

section Stores

variable (lower : String → String) (maxInteger : Nat)

abbrev memoryStore : KnowledgeStore F where
  State := MemoryService F
  empty := {}
  step := MemoryService.step lower
  documents s := s.documents.entries
  chunks s := s.chunks.entries.flatMap Prod.snd
  retrieve := MemoryService.retrieve lower
  documents_empty := rfl
  chunks_empty := rfl
  documents_step s call document there := by
    cases call with
    | createBase => exact .inl there
    | registerDocument request marks =>
      simp only [MemoryService.step, MemoryService.registerDocument] at there
      split at there
      · exact .inl there
      split at there
      · exact .inl there
      · obtain new | ⟨old, -⟩ := Table.mem_put.mp there
        · exact .inr ⟨request, marks, rfl, new⟩
        · exact .inl old
    | retrieve => exact .inl there
    | deleteForTenant => exact .inl (List.mem_of_mem_filter there)
  chunks_step s call chunk there := by
    cases call with
    | createBase => exact .inl there
    | registerDocument request marks =>
      simp only [MemoryService.step, MemoryService.registerDocument] at there
      split at there
      · exact .inl there
      split at there
      · exact .inl there
      · obtain ⟨entry, member, listed⟩ := List.mem_flatMap.mp there
        obtain rfl | ⟨old, -⟩ := Table.mem_put.mp member
        · exact .inr ⟨request, marks, rfl, listed⟩
        · exact .inl (List.mem_flatMap.mpr ⟨entry, old, listed⟩)
    | retrieve => exact .inl there
    | deleteForTenant =>
      obtain ⟨entry, member, listed⟩ := List.mem_flatMap.mp there
      exact .inl (List.mem_flatMap.mpr ⟨entry, List.mem_of_mem_filter member, listed⟩)
  retrieved s request result returned := by
    obtain ⟨chunk, there, readable, rfl⟩ := mem_retrieveChunks lower request returned
    exact ⟨chunk, there, readable, rfl⟩

abbrev sqlStore : KnowledgeStore F where
  State := SqlService F
  empty := {}
  step := SqlService.step lower maxInteger
  documents s := s.documents.entries
  chunks s := s.chunks.rows
  retrieve s := s.chunks.retrieve lower
  documents_empty := rfl
  chunks_empty := rfl
  documents_step s call document there := by
    cases call with
    | createBase =>
      simp only [SqlService.step, SqlService.createBase] at there
      split at there <;> exact .inl there
    | registerDocument request marks =>
      simp only [SqlService.step, SqlService.registerDocument] at there
      repeat' split at there
      all_goals first
        | exact .inl there
        | obtain new | ⟨old, -⟩ := Table.mem_put.mp there
          · exact .inr ⟨request, marks, rfl, new⟩
          · exact .inl old
    | retrieve => exact .inl there
    | deleteForTenant => exact .inl (List.mem_of_mem_filter there)
  chunks_step s call chunk there := by
    cases call with
    | createBase =>
      simp only [SqlService.step, SqlService.createBase] at there
      split at there <;> exact .inl there
    | registerDocument request marks =>
      simp only [SqlService.step, SqlService.registerDocument] at there
      repeat' split at there
      all_goals first
        | exact .inl there
        | exact (List.mem_append.mp there).imp_right fun new => ⟨request, marks, rfl, new⟩
    | retrieve => exact .inl there
    | deleteForTenant => exact .inl (List.mem_of_mem_filter there)
  retrieved s request result returned := by
    obtain ⟨chunk, there, readable, rfl⟩ := mem_retrieveChunks lower request returned
    exact ⟨chunk, (SqlKnowledgeService.mem_select.mp there).1, readable, rfl⟩

end Stores

namespace KnowledgeStore

variable {store : KnowledgeStore F}

theorem syncDocuments_grows {α : Type} {stored : store.State → List α}
    {made : KnowledgeDocumentCreate F → Marks → α → Prop}
    (grows : ∀ s call, ∀ a ∈ stored (store.step s call).2, a ∈ stored s ∨
      ∃ request marks, call = .registerDocument request marks ∧ made request marks a)
    {job : ConnectorSyncJob F} {marks : Nat → Marks} {documents : List (ConnectorSyncDocument F)}
    {n : Nat} {s : store.State} {a : α} (there : a ∈ stored (syncDocuments store job marks n documents s)) :
    a ∈ stored s ∨ ∃ numbered ∈ documents.zipIdx n,
      made (job.plan numbered.1) (marks numbered.2) a := by
  induction documents generalizing n s with
  | nil => exact .inl there
  | cons document rest ih =>
    have first := grows s (.registerDocument (job.plan document) (marks n)) a
    have made_first (found : a ∈ stored (store.step s (.registerDocument (job.plan document) (marks n))).2) :
        a ∈ stored s ∨ ∃ numbered ∈ (document :: rest).zipIdx n,
          made (job.plan numbered.1) (marks numbered.2) a := by
      obtain old | ⟨request, mark, same, new⟩ := first found
      · exact .inl old
      · cases same
        exact .inr ⟨(document, n), List.mem_cons_self, new⟩
    unfold syncDocuments at there
    split at there
    · next raised later moved =>
      rw [moved] at made_first
      exact made_first there
    · next answer later _ moved =>
      rw [moved] at made_first
      obtain old | ⟨numbered, member, new⟩ := ih there
      · exact made_first old
      · exact .inr ⟨numbered, List.mem_cons_of_mem _ member, new⟩

theorem syncDocuments_one {job : ConnectorSyncJob F} {marks : Nat → Marks}
    {document : ConnectorSyncDocument F} {n : Nat} {s later : store.State}
    {registered : KnowledgeDocument} (step : store.step s (.registerDocument (job.plan document)
      (marks n)) = (.document registered, later)) :
    syncDocuments store job marks n [document] s = later := by
  unfold syncDocuments
  rw [step]
  rfl

theorem after_grows {α : Type} {stored : store.State → List α}
    {made : KnowledgeDocumentCreate F → Marks → α → Prop} (none_first : stored store.empty = [])
    (grows : ∀ s call, ∀ a ∈ stored (store.step s call).2, a ∈ stored s ∨
      ∃ request marks, call = .registerDocument request marks ∧ made request marks a)
    {events : List (Event F)} {a : α} (there : a ∈ stored (store.after events)) :
    ∃ asked ∈ events.flatMap Event.requests, made asked.1 asked.2 a := by
  induction events using List.reverseRecOn with
  | nil =>
    rw [after, List.foldl_nil, none_first] at there
    cases there
  | append_singleton events event ih =>
    rw [List.flatMap_append, List.flatMap_singleton]
    unfold after at there
    rw [List.foldl_append, List.foldl_cons, List.foldl_nil] at there
    have before (old : a ∈ stored (store.after events)) :
        ∃ asked ∈ events.flatMap Event.requests ++ event.requests, made asked.1 asked.2 a := by
      obtain ⟨asked, member, new⟩ := ih old
      exact ⟨asked, List.mem_append_left _ member, new⟩
    cases event with
    | call call =>
      obtain old | ⟨request, marks, rfl, new⟩ := grows _ call a there
      · exact before old
      · exact ⟨(request, marks), List.mem_append_right _ List.mem_cons_self, new⟩
    | sync job marks =>
      obtain old | ⟨numbered, member, new⟩ := syncDocuments_grows grows there
      · exact before old
      · exact ⟨(job.plan numbered.1, marks numbered.2),
          List.mem_append_right _ (List.mem_map_of_mem member), new⟩

end KnowledgeStore

section Guarantee

variable (lower : String → String) (maxInteger : Nat)

def FreshDocuments (events : List (Event F)) : Prop :=
  ((events.flatMap Event.requests).map fun asked => asked.2.id).Nodup

/-- What the document with the identifier, synchronised by the job, may be shown to whom, in a
state of a service. A document that came without a source access list is only confined. -/
structure Guarded (store : KnowledgeStore F) (s : store.State) (job : ConnectorSyncJob F)
    (document : ConnectorSyncDocument F) (id : String) : Prop where
  returned : document.sourceAcl ≠ [] → ∀ request, ∀ result ∈ store.retrieve s request, result.documentId = id →
    ∃ principal ∈ document.sourceAcl, ∃ subject ∈ request.aclSubjects,
      job.aclMapping.subjectOf principal = some subject
  unreadable : document.sourceAcl ≠ [] →
    (∀ principal ∈ document.sourceAcl, job.aclMapping.subjectOf principal = none) →
    ∀ request, ∀ chunk ∈ store.chunks s, chunk.documentId = id → canRead chunk request = false
  confined : (∀ stored ∈ store.documents s, stored.id = id →
      stored.tenantId = job.tenantId ∧ stored.workspaceId = job.workspaceId) ∧
    ∀ chunk ∈ store.chunks s, chunk.documentId = id →
      chunk.tenantId = job.tenantId ∧ chunk.workspaceId = job.workspaceId

/-- In every history of calls and jobs, in memory and in the tables, every document with the
source access list and chunks of `document` that a job of the route with the mapping brings is
guarded. -/
def NeverWidens (mapping : ConnectorAclMapping) (document : ConnectorSyncDocument F) : Prop :=
  ∀ events : List (Event F), FreshDocuments events →
    ∀ context connector payload job marks n,
      enqueueConnectorSyncJob context connector payload = .ok job → job.aclMapping = mapping →
      job.documents[n]? = some document → .sync job marks ∈ events →
      Guarded (memoryStore lower) ((memoryStore lower).after events) job document (marks n).id ∧
        Guarded (sqlStore lower maxInteger) ((sqlStore lower maxInteger).after events) job document
          (marks n).id

variable {lower maxInteger} {context : RequestContext} {connector : ConnectorDefinition}
  {payload : ConnectorSyncJobCreate F} {job : ConnectorSyncJob F}
  {document : ConnectorSyncDocument F} {marks : Nat → Marks} {n : Nat}

theorem enqueued_own (enqueued : enqueueConnectorSyncJob context connector payload = .ok job)
    (member : document ∈ job.documents) :
    document.tenantId = job.tenantId ∧ document.workspaceId = job.workspaceId := by
  unfold enqueueConnectorSyncJob at enqueued
  split at enqueued
  · cases enqueued
  · next accepts =>
    cases enqueued
    have accepted := List.findSome?_eq_none_iff.mp accepts document member
    unfold refusal at accepted
    split at accepted
    · cases accepted
    · next tenant =>
      split at accepted
      · cases accepted
      · next workspace => exact ⟨not_not.mp tenant, not_not.mp workspace⟩

theorem requests_sync (present : job.documents[n]? = some document) :
    (job.plan document, marks n) ∈ (Event.sync job marks).requests :=
  List.mem_map.mpr ⟨(document, n), List.mem_zipIdx_iff_getElem?.mpr present, rfl⟩

theorem asked_unique {events : List (Event F)} (fresh : FreshDocuments events)
    (present : job.documents[n]? = some document) (synced : .sync job marks ∈ events)
    {asked : KnowledgeDocumentCreate F × Marks} (member : asked ∈ events.flatMap Event.requests)
    (same : asked.2.id = (marks n).id) : asked = (job.plan document, marks n) :=
  List.inj_on_of_nodup_map fresh member
    (List.mem_flatMap.mpr ⟨.sync job marks, synced, requests_sync present⟩) same

theorem chunk_of_sync {store : KnowledgeStore F} {events : List (Event F)}
    (fresh : FreshDocuments events) (present : job.documents[n]? = some document)
    (synced : .sync job marks ∈ events) {chunk : DocumentChunk F}
    (there : chunk ∈ store.chunks (store.after events)) (same : chunk.documentId = (marks n).id) :
    chunk ∈ (job.plan document).documentChunks (marks n) := by
  obtain ⟨asked, member, made⟩ := KnowledgeStore.after_grows
    store.chunks_empty store.chunks_step there
  obtain ⟨i, content, rfl⟩ := mem_documentChunks made
  obtain rfl := asked_unique fresh present synced member same
  exact made

theorem document_of_sync {store : KnowledgeStore F} {events : List (Event F)}
    (fresh : FreshDocuments events) (present : job.documents[n]? = some document)
    (synced : .sync job marks ∈ events) {stored : KnowledgeDocument}
    (there : stored ∈ store.documents (store.after events)) (same : stored.id = (marks n).id) :
    stored = (job.plan document).document (marks n) := by
  obtain ⟨asked, member, rfl⟩ := KnowledgeStore.after_grows
    store.documents_empty store.documents_step there
  obtain rfl := asked_unique fresh present synced member same
  rfl

theorem guarded_of_mapped {store : KnowledgeStore F} {events : List (Event F)}
    (fresh : FreshDocuments events)
    (enqueued : enqueueConnectorSyncJob context connector payload = .ok job)
    (present : job.documents[n]? = some document) (synced : .sync job marks ∈ events)
    (mapped : document.sourceAcl = [] ∨
      (∃ principal ∈ document.sourceAcl, job.aclMapping.subjectOf principal ≠ none) ∨
      document.chunks = []) :
    Guarded store (store.after events) job document (marks n).id := by
  obtain ⟨tenant, workspace⟩ := enqueued_own enqueued (List.mem_of_getElem? present)
  have no_chunks (empty : document.chunks = []) {chunk : DocumentChunk F}
      (made : chunk ∈ (job.plan document).documentChunks (marks n)) : False := by
    unfold KnowledgeDocumentCreate.documentChunks ConnectorSyncJob.plan at made
    rw [empty] at made
    cases made
  refine ⟨fun restricted request result returned same => ?_,
    fun restricted unmapped request chunk there same => ?_,
    fun stored there same => ?_, fun chunk there same => ?_⟩
  · obtain ⟨chunk, there, readable, of_chunk⟩ := store.retrieved _ request result returned
    have made := chunk_of_sync fresh present synced there (of_chunk.symm.trans same)
    obtain ⟨principal, listed, given⟩ := (mapped.resolve_left restricted).resolve_right
      fun empty => no_chunks empty made
    obtain ⟨i, content, rfl⟩ := mem_documentChunks made
    obtain nobody | ⟨subject, subjects, held⟩ := readable.admitted
    · exact absurd (ConnectorAclMapping.mapPrincipals_eq_nil.mp nobody principal listed) given
    · obtain ⟨source, member, assigned⟩ := ConnectorAclMapping.mem_mapPrincipals.mp subjects
      exact ⟨source, member, subject, held, assigned⟩
  · have made := chunk_of_sync fresh present synced there same
    obtain ⟨principal, listed, given⟩ := (mapped.resolve_left restricted).resolve_right
      fun empty => no_chunks empty made
    exact absurd (unmapped principal listed) given
  · rw [document_of_sync fresh present synced there same]
    exact ⟨tenant, workspace⟩
  · obtain ⟨i, content, rfl⟩ := mem_documentChunks (chunk_of_sync fresh present synced there same)
    exact ⟨tenant, workspace⟩

end Guarantee

section Unmapped

variable (mapping : ConnectorAclMapping) (document : ConnectorSyncDocument F)

def soleJob : ConnectorSyncJob F where
  tenantId := document.tenantId
  workspaceId := document.workspaceId
  connectorId := document.connectorId
  knowledgeBaseId := "base"
  requestedByUserId := "user"
  documents := [document]
  aclMapping := mapping

theorem enqueue_sole :
    enqueueConnectorSyncJob ⟨document.tenantId, "user"⟩ ⟨document.connectorId, document.workspaceId⟩
      { knowledgeBaseId := "base", documents := [document], aclMapping := mapping } =
      .ok (soleJob mapping document) := by
  simp [enqueueConnectorSyncJob, refusal, soleJob]

def soleMarks : Marks where
  id := "document"
  createdAt := 1
  chunkId := fun _ => "chunk"
  chunkCreatedAt := fun _ => 1

def soleEvents : List (Event F) :=
  [.call (.createBase document.tenantId "user" { workspaceId := document.workspaceId, name := "base" }
      "base" 0),
    .sync (soleJob mapping document) fun _ => soleMarks]

def anyone : RetrievalRequest F where
  tenantId := document.tenantId
  query := "anything"
  allowedWorkspaceIds := []
  allowedKnowledgeBaseIds := []
  aclSubjects := []
  clearanceLevel := document.sensitivityLevel
  limit := 5
  queryEmbedding := []

variable {mapping document} (lower : String → String)

theorem sole_chunks {chunk : DocumentChunk F}
    (made : chunk ∈ ((soleJob mapping document).plan document).documentChunks soleMarks) :
    chunk ∈ (memoryStore lower).chunks ((memoryStore lower).after (soleEvents mapping document)) := by
  let base := knowledgeBase document.tenantId "user"
    { workspaceId := document.workspaceId, name := "base" } "base" 0
  let s : MemoryService F := { bases := Table.empty.put base }
  have found : s.bases.get? "base" = some base := Table.get?_put_self _ base
  have checked : checkBase s.bases ((soleJob mapping document).plan document) = none := by
    unfold checkBase
    rw [show ((soleJob mapping document).plan document).knowledgeBaseId = "base" from rfl, found]
    simp [base, knowledgeBase, ConnectorSyncJob.plan]
  obtain ⟨later, step, there⟩ : ∃ later, (memoryStore lower).step s (.registerDocument
      ((soleJob mapping document).plan document) soleMarks) =
        (.document (((soleJob mapping document).plan document).document soleMarks), later) ∧
      chunk ∈ (memoryStore lower).chunks later := by
    refine ⟨s.add ((soleJob mapping document).plan document) soleMarks, ?_, ?_⟩
    · change s.registerDocument _ soleMarks = _
      rw [MemoryService.registerDocument_eq, checked]
      exact if_neg (Finset.notMem_empty _)
    · exact List.mem_flatMap.mpr ⟨_, Table.mem_put.mpr (.inl rfl), made⟩
  change chunk ∈ (memoryStore lower).chunks (syncDocuments (memoryStore lower)
    (soleJob mapping document) (fun _ => soleMarks) 0 [document] s)
  rw [KnowledgeStore.syncDocuments_one step]
  exact there

/-- A document with chunks of which no principal is mapped is open to any caller of the tenant. -/
theorem widened_of_unmapped (maxInteger : Nat) (restricted : document.sourceAcl ≠ [])
    (unmapped : ∀ principal ∈ document.sourceAcl, mapping.subjectOf principal = none)
    (chunks : document.chunks ≠ []) : ¬NeverWidens lower maxInteger mapping document := by
  intro never
  have fresh : FreshDocuments (soleEvents mapping document) := List.nodup_singleton _
  have guarded := (never (soleEvents mapping document) fresh _ _ _ (soleJob mapping document)
    (fun _ => soleMarks) 0 (enqueue_sole mapping document) rfl rfl
    (List.mem_cons_of_mem _ List.mem_cons_self)).1
  obtain ⟨content, rest, shape⟩ := List.exists_cons_of_ne_nil chunks
  have made : ((soleJob mapping document).plan document).chunk soleMarks 0 content ∈
      ((soleJob mapping document).plan document).documentChunks soleMarks := by
    unfold KnowledgeDocumentCreate.documentChunks
    rw [show ((soleJob mapping document).plan document).chunks = content :: rest from shape]
    exact List.mem_cons_self
  have closed := guarded.unreadable restricted unmapped (anyone document) _ (sole_chunks lower made) rfl
  have readable : Readable (((soleJob mapping document).plan document).chunk soleMarks 0 content)
      (anyone document) :=
    ⟨rfl, .inl rfl, .inl rfl, le_rfl, .inl (ConnectorAclMapping.mapPrincipals_eq_nil.mpr unmapped)⟩
  rw [(canRead_iff _ _).mpr readable] at closed
  cases closed

end Unmapped

/-- Sync keeps a document with a source access list to the callers that the mapping admits if and
only if the mapping knows one of its principals, unless the document has no chunks at all. -/
theorem sync_never_widens (lower : String → String) (maxInteger : Nat)
    (mapping : ConnectorAclMapping) (document : ConnectorSyncDocument F) :
    NeverWidens lower maxInteger mapping document ↔
      document.sourceAcl = [] ∨
        (∃ principal ∈ document.sourceAcl, mapping.subjectOf principal ≠ none) ∨
        document.chunks = [] := by
  constructor
  · intro never
    by_contra neither
    obtain ⟨restricted, neither⟩ := not_or.mp neither
    obtain ⟨unmapped, chunks⟩ := not_or.mp neither
    refine widened_of_unmapped lower maxInteger restricted (fun principal listed => ?_) chunks never
    by_contra given
    exact unmapped ⟨principal, listed, given⟩
  · rintro mapped events fresh context connector payload job marks n enqueued rfl present synced
    exact ⟨guarded_of_mapped fresh enqueued present synced mapped,
      guarded_of_mapped fresh enqueued present synced mapped⟩

section Salaries

def salaries : ConnectorSyncDocument exactFloats where
  tenantId := "acme"
  workspaceId := "sales"
  connectorId := "drive"
  sourceUri := "drive://salaries"
  sourceDocumentId := "salaries"
  title := "Salaries"
  documentVersion := "v1"
  contentHash := "sha256:salaries"
  sourceAcl := [⟨"group:finance", .group⟩]
  chunks := [{ content := "salary list" }]

def salesMapping : ConnectorAclMapping := ⟨[⟨"group:sales", "team:sales"⟩]⟩

/-- A caller without subjects is handed the file. -/
theorem salaries_returned :
    (((memoryStore (F := exactFloats) id).retrieve
      ((memoryStore id).after (soleEvents salesMapping salaries))
      { anyone salaries with query := "salary" }).map RetrievalResult.documentId = ["document"]) ∧
    ¬∀ mapping document, NeverWidens (F := exactFloats) id (2 ^ 63 - 1) mapping document := by
  refine ⟨by decide +kernel, fun never => ?_⟩
  refine widened_of_unmapped id (2 ^ 63 - 1) (List.cons_ne_nil _ _) ?_ (List.cons_ne_nil _ _)
    (never salesMapping salaries)
  decide

end Salaries

end Taroai.Connectors
