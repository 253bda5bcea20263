import Mathlib.Algebra.Order.Ring.Rat
import Taroai.Knowledge.Retrieval

/-! What a retrieval gives away. A chunk that the request may not read is dropped before it is
scored, so the results are those of the readable chunks alone. -/

namespace Taroai.Knowledge

section Readable

variable {F : Floats}

/-- The request may read the chunk. An empty list of allowed workspaces or knowledge bases
allows each of the tenant's, an empty access list admits every caller. -/
structure Readable (chunk : DocumentChunk F) (request : RetrievalRequest F) : Prop where
  tenant : chunk.tenantId = request.tenantId
  workspace : request.allowedWorkspaceIds = [] ∨ chunk.workspaceId ∈ request.allowedWorkspaceIds
  base : request.allowedKnowledgeBaseIds = [] ∨
    chunk.knowledgeBaseId ∈ request.allowedKnowledgeBaseIds
  clearance : chunk.sensitivityLevel ≤ request.clearanceLevel
  admitted : chunk.aclSubjects = [] ∨ ∃ subject ∈ chunk.aclSubjects, subject ∈ request.aclSubjects

theorem canRead_iff (chunk : DocumentChunk F) (request : RetrievalRequest F) :
    canRead chunk request = true ↔ Readable chunk request := by
  unfold canRead
  split
  · next other => exact iff_of_false (by simp) fun readable => other readable.tenant
  · next own =>
    split
    · next outside =>
      exact iff_of_false (by simp) fun readable => readable.workspace.elim outside.1 outside.2
    · next inside =>
      split
      · next elsewhere =>
        exact iff_of_false (by simp) fun readable => readable.base.elim elsewhere.1 elsewhere.2
      · next here =>
        split
        · next above =>
          exact iff_of_false (by simp) fun readable => not_lt.mpr readable.clearance above
        · next cleared =>
          have workspace := not_and_or.mp inside
          have base := not_and_or.mp here
          rw [not_not, not_not] at workspace base
          have other : Readable chunk request ↔ (chunk.aclSubjects = [] ∨
              ∃ subject ∈ chunk.aclSubjects, subject ∈ request.aclSubjects) :=
            ⟨Readable.admitted, fun admitted =>
              ⟨not_not.mp own, workspace, base, not_lt.mp cleared, admitted⟩⟩
          rw [other]
          split
          · next everyone => simp [everyone]
          · next listed => simp [listed]

end Readable

section Scores

variable {F : Floats} (lower : String → String)

theorem termRelevance_value (queryTerms : Finset String) (content : String) :
    (F.value (termRelevance lower queryTerms content)).isSome := by
  unfold termRelevance
  split
  · exact F.zero_value
  · next some =>
    exact F.ratio_value _ _ (Finset.card_pos.mpr (Finset.nonempty_iff_ne_empty.mpr some))

theorem value_of_lt {x y : F.Double} (below : F.lt x y = true) : (F.value y).isSome := by
  unfold Floats.lt at below
  cases there : F.value y with
  | some b => rfl
  | none =>
    rw [there] at below
    split at below
    · next impossible => cases impossible
    · cases below

theorem cosineSimilarity_value (queryEmbedding chunkEmbedding : List F.Double) :
    (F.value (cosineSimilarity queryEmbedding chunkEmbedding)).isSome := by
  unfold cosineSimilarity
  split
  · exact F.zero_value
  · dsimp only
    split
    · exact F.zero_value
    · split
      · next positive => exact value_of_lt positive
      · exact F.zero_value

theorem scoreChunk_value (request : RetrievalRequest F) (queryTerms : Finset String)
    (chunk : DocumentChunk F) :
    (F.value (scoreChunk lower request queryTerms chunk)).isSome := by
  unfold scoreChunk
  split
  · exact cosineSimilarity_value _ _
  · exact termRelevance_value lower _ _

/-- `nan` below every value. -/
def rank (F : Floats) (x : F.Double) : WithBot F.Value := F.value x

theorem not_lt_eq_rank {x y : F.Double} (left : (F.value x).isSome) (right : (F.value y).isSome) :
    (!F.lt x y) = decide (rank F y ≤ rank F x) := by
  obtain ⟨a, here⟩ := Option.isSome_iff_exists.mp left
  obtain ⟨b, there⟩ := Option.isSome_iff_exists.mp right
  unfold Floats.lt rank
  rw [here, there, ← decide_not]
  exact decide_eq_decide.mpr (not_lt.trans WithBot.coe_le_coe.symm)

theorem le_of_rank {x y : F.Double} (left : (F.value x).isSome)
    (below : rank F x ≤ rank F y) : F.le x y = true := by
  obtain ⟨a, here⟩ := Option.isSome_iff_exists.mp left
  unfold rank at below
  unfold Floats.le
  rw [here] at below ⊢
  cases there : F.value y with
  | none =>
    rw [there] at below
    exact absurd below (WithBot.not_coe_le_bot a)
  | some b =>
    rw [there] at below
    exact decide_eq_true (WithBot.coe_le_coe.mp below)

end Scores

section Results

variable {F : Floats} (lower : String → String) (request : RetrievalRequest F)

theorem resultFor_some {queryTerms : Finset String} {chunk : DocumentChunk F}
    {result : RetrievalResult F} (found : resultFor lower request queryTerms chunk = some result) :
    Readable chunk request ∧
      result = resultOf chunk (scoreChunk lower request queryTerms chunk) := by
  unfold resultFor at found
  split at found
  · next readable =>
    dsimp only at found
    split at found
    · cases found
    · cases found
      exact ⟨(canRead_iff chunk request).mp readable, rfl⟩
  · cases found

theorem results_filter (queryTerms : Finset String) (chunks : List (DocumentChunk F)) :
    (chunks.filter fun chunk => canRead chunk request).filterMap (resultFor lower request queryTerms) =
      chunks.filterMap (resultFor lower request queryTerms) := by
  rw [List.filterMap_filter]
  refine List.filterMap_congr fun chunk _ => ?_
  unfold resultFor
  split <;> rfl

theorem retrieveChunks_filter (chunks : List (DocumentChunk F)) :
    retrieveChunks lower (chunks.filter fun chunk => canRead chunk request) request =
      retrieveChunks lower chunks request := by
  unfold retrieveChunks
  rw [results_filter]

theorem retrieveChunks_congr {chunks others : List (DocumentChunk F)}
    (same : (chunks.filter fun chunk => canRead chunk request) =
      others.filter fun chunk => canRead chunk request) :
    retrieveChunks lower chunks request = retrieveChunks lower others request := by
  rw [← retrieveChunks_filter, same, retrieveChunks_filter]

theorem mem_retrieveChunks {chunks : List (DocumentChunk F)} {result : RetrievalResult F}
    (returned : result ∈ retrieveChunks lower chunks request) :
    ∃ chunk ∈ chunks, Readable chunk request ∧ result =
      resultOf chunk (scoreChunk lower request (retrievalTerms lower request.query) chunk) := by
  have listed := List.mem_mergeSort.mp (List.mem_of_mem_take returned)
  obtain ⟨chunk, member, found⟩ := List.mem_filterMap.mp listed
  exact ⟨chunk, member, resultFor_some lower request found⟩

theorem retrieveChunks_sorted (chunks : List (DocumentChunk F)) :
    (retrieveChunks lower chunks request).Pairwise fun a b => F.le b.score a.score = true := by
  have numbered : ∀ result ∈ chunks.filterMap
      (resultFor lower request (retrievalTerms lower request.query)),
      (F.value result.score).isSome := by
    intro result listed
    obtain ⟨chunk, -, found⟩ := List.mem_filterMap.mp listed
    rw [(resultFor_some lower request found).2]
    exact scoreChunk_value lower request _ chunk
  have ranked := Ranked.pairwise_of_rank
    (fun result : RetrievalResult F => OrderDual.toDual (rank F result.score))
    fun a here b there => not_lt_eq_rank (numbered a here) (numbered b there)
  refine List.Pairwise.take ?_
  refine ranked.imp_of_mem fun {a b} _ there above => ?_
  exact le_of_rank (numbered b (List.mem_mergeSort.mp there)) above

end Results

section Stores

variable {F : Floats} (lower : String → String)

theorem InMemoryKnowledgeService.mem_allChunks {service : InMemoryKnowledgeService F}
    {chunk : DocumentChunk F} :
    chunk ∈ service.allChunks ↔ ∃ document ∈ service.chunks, chunk ∈ document.2 :=
  List.mem_flatMap

theorem SqlKnowledgeService.mem_select {service : SqlKnowledgeService F} {tenantId : String}
    {chunk : DocumentChunk F} :
    chunk ∈ service.select tenantId ↔ chunk ∈ service.rows ∧ chunk.tenantId = tenantId := by
  unfold SqlKnowledgeService.select
  rw [Ranked.mem_orderBy, List.mem_filter, decide_eq_true_eq]

theorem SqlKnowledgeService.select_readable {service other : SqlKnowledgeService F}
    {request : RetrievalRequest F}
    (agree : ∀ chunk, Readable chunk request → (chunk ∈ service.rows ↔ chunk ∈ other.rows)) :
    ((service.select request.tenantId).filter fun chunk => canRead chunk request) =
      (other.select request.tenantId).filter fun chunk => canRead chunk request := by
  have keys (table : SqlKnowledgeService F) : ((table.rows.filter
      fun chunk => chunk.tenantId = request.tenantId).map rowKey).Nodup := by
    refine List.Nodup.of_map (fun key => (ofLex key).2) ?_
    rw [List.map_map]
    exact table.ids.sublist (List.filter_sublist.map DocumentChunk.id)
  have distinct (table : SqlKnowledgeService F) : ((table.rows.filter
      fun chunk => chunk.tenantId = request.tenantId).filter fun chunk =>
        canRead chunk request).Nodup :=
    (List.Nodup.of_map rowKey (keys table)).filter _
  refine Ranked.filter_orderBy _ (keys service) ?_
  refine (List.perm_ext_iff_of_nodup (distinct service) (distinct other)).mpr fun chunk => ?_
  rw [List.mem_filter, List.mem_filter, List.mem_filter, List.mem_filter, canRead_iff]
  constructor
  · rintro ⟨⟨member, own⟩, readable⟩
    exact ⟨⟨(agree chunk readable).mp member, own⟩, readable⟩
  · rintro ⟨⟨member, own⟩, readable⟩
    exact ⟨⟨(agree chunk readable).mpr member, own⟩, readable⟩

/-- What every list of results is: short, sorted by score, of readable chunks of the store. -/
structure Proper (request : RetrievalRequest F) (stored : DocumentChunk F → Prop)
    (results : List (RetrievalResult F)) : Prop where
  short : results.length ≤ request.limit
  readable : ∀ result ∈ results, ∃ chunk, stored chunk ∧ Readable chunk request ∧
    result = resultOf chunk (scoreChunk lower request (retrievalTerms lower request.query) chunk)
  sorted : results.Pairwise fun a b => F.le b.score a.score = true

theorem retrieveChunks_proper (request : RetrievalRequest F) (chunks : List (DocumentChunk F)) :
    Proper lower request (fun chunk => chunk ∈ chunks) (retrieveChunks lower chunks request) where
  short := List.length_take_le _ _
  readable _ returned := mem_retrieveChunks lower request returned
  sorted := retrieveChunks_sorted lower request chunks

/-- The results of a retrieval depend on the chunks that the request may read and on nothing
else of the store; they are at most `limit`, readable and sorted by score. -/
theorem retrieval_noninterference (request : RetrievalRequest F) :
    (∀ service other : InMemoryKnowledgeService F,
      (service.allChunks.filter fun chunk => canRead chunk request) =
        (other.allChunks.filter fun chunk => canRead chunk request) →
      service.retrieve lower request = other.retrieve lower request) ∧
    (∀ service other : SqlKnowledgeService F,
      (∀ chunk, Readable chunk request → (chunk ∈ service.rows ↔ chunk ∈ other.rows)) →
      service.retrieve lower request = other.retrieve lower request) ∧
    (∀ service : InMemoryKnowledgeService F, Proper lower request
      (fun chunk => ∃ document ∈ service.chunks, chunk ∈ document.2)
      (service.retrieve lower request)) ∧
    ∀ service : SqlKnowledgeService F, Proper lower request (fun chunk => chunk ∈ service.rows)
      (service.retrieve lower request) := by
  refine ⟨fun _ _ agree => retrieveChunks_congr lower request agree, fun _ _ agree =>
    retrieveChunks_congr lower request (SqlKnowledgeService.select_readable agree),
    fun service => ?_, fun service => ?_⟩
  · obtain ⟨short, readable, sorted⟩ := retrieveChunks_proper lower request service.allChunks
    refine ⟨short, fun result returned => ?_, sorted⟩
    obtain ⟨chunk, stored, here⟩ := readable result returned
    exact ⟨chunk, InMemoryKnowledgeService.mem_allChunks.mp stored, here⟩
  · obtain ⟨short, readable, sorted⟩ :=
      retrieveChunks_proper lower request (service.select request.tenantId)
    refine ⟨short, fun result returned => ?_, sorted⟩
    obtain ⟨chunk, stored, here⟩ := readable result returned
    exact ⟨chunk, (SqlKnowledgeService.mem_select.mp stored).1, here⟩

end Stores

section Tenants

def exactFloats : Floats where
  Double := ℚ
  Value := ℚ
  order := inferInstance
  value := some
  zero := 0
  mul := (· * ·)
  div := (· / ·)
  sqrt q := (Nat.sqrt q.num.toNat : ℚ) / Nat.sqrt q.den
  sum := List.sum
  ratio m n := m / n
  zero_value := rfl
  ratio_value _ _ _ := rfl

def chunkOf (tenantId id : String) : DocumentChunk exactFloats where
  id := id
  tenantId := tenantId
  workspaceId := "workspace"
  knowledgeBaseId := "base"
  documentId := "document"
  sourceDocumentId := "source"
  sourceUri := "uri"
  content := "refund policy"
  citation := []
  aclSubjects := []
  sensitivityLevel := 0
  embedding := []
  createdAt := 0

def refunds : RetrievalRequest exactFloats where
  tenantId := "acme"
  query := "refund"
  allowedWorkspaceIds := ["workspace"]
  allowedKnowledgeBaseIds := []
  aclSubjects := []
  clearanceLevel := 0
  limit := 1
  queryEmbedding := []

def ownDocument : InMemoryKnowledgeService exactFloats := ⟨[("document", [chunkOf "acme" "own"])]⟩

def bothDocuments : InMemoryKnowledgeService exactFloats :=
  ⟨[("other", [chunkOf "globex" "other"]), ("document", [chunkOf "acme" "own"])]⟩

def ownRow : SqlKnowledgeService exactFloats := ⟨[chunkOf "acme" "own"], by decide⟩

def bothRows : SqlKnowledgeService exactFloats :=
  ⟨[chunkOf "globex" "other", chunkOf "acme" "own"], by decide⟩

example : (bothDocuments.retrieve id refunds).map RetrievalResult.chunkId = ["own"] := by decide +kernel

/-- The documents of another tenant change no result. -/
theorem refunds_unaffected :
    ownDocument.retrieve id refunds = bothDocuments.retrieve id refunds ∧
      ownRow.retrieve id refunds = bothRows.retrieve id refunds := by
  obtain ⟨memory, sql, -⟩ := retrieval_noninterference (F := exactFloats) id refunds
  refine ⟨memory _ _ rfl, sql _ _ fun chunk readable => ?_⟩
  unfold ownRow bothRows
  rw [List.mem_cons (b := chunkOf "globex" "other")]
  refine ⟨Or.inr, fun listed => listed.resolve_left fun other => ?_⟩
  rw [other] at readable
  exact absurd readable.tenant (by decide)

end Tenants

end Taroai.Knowledge
