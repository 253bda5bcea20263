import Mathlib.Data.Finset.Card
import Mathlib.Data.Prod.Lex
import Mathlib.Data.String.Basic
import Mathlib.Order.Lattice
import Taroai.Clock
import Taroai.Lib.Json
import Taroai.Lib.Ranked

/-! Retrieval of knowledge: the chunks that a request may read are scored and the best of them
are returned. The arithmetic of floats and `str.lower` are parameters. -/

namespace Taroai.Knowledge

/-- Floats are compared by the values they stand for, and `nan` stands for none. -/
structure Floats where
  Double : Type
  Value : Type
  order : LinearOrder Value
  value : Double → Option Value
  zero : Double
  mul : Double → Double → Double
  div : Double → Double → Double
  sqrt : Double → Double
  sum : List Double → Double
  /-- `m / n` of integers. -/
  ratio : Nat → Nat → Double
  zero_value : (value zero).isSome
  ratio_value : ∀ m n, 0 < n → (value (ratio m n)).isSome

namespace Floats

instance (F : Floats) : LinearOrder F.Value := F.order

def lt (F : Floats) (x y : F.Double) : Bool :=
  match F.value x, F.value y with
  | some a, some b => a < b
  | _, _ => false

def le (F : Floats) (x y : F.Double) : Bool :=
  match F.value x, F.value y with
  | some a, some b => a ≤ b
  | _, _ => false

def eq (F : Floats) (x y : F.Double) : Bool :=
  match F.value x, F.value y with
  | some a, some b => a = b
  | _, _ => false

end Floats

structure DocumentChunk (F : Floats) where
  id : String
  tenantId : String
  workspaceId : String
  knowledgeBaseId : String
  documentId : String
  sourceDocumentId : String
  sourceUri : String
  content : String
  citation : Json.Items
  aclSubjects : List String
  sensitivityLevel : Int
  embedding : List F.Double
  createdAt : Time

structure RetrievalRequest (F : Floats) where
  tenantId : String
  query : String
  allowedWorkspaceIds : List String
  allowedKnowledgeBaseIds : List String
  aclSubjects : List String
  clearanceLevel : Nat
  limit : Nat
  queryEmbedding : List F.Double

structure RetrievalResult (F : Floats) where
  documentId : String
  chunkId : String
  sourceDocumentId : String
  sourceUri : String
  excerpt : String
  score : F.Double
  citation : Json.Items
  sensitivityLevel : Int

/-- The maximal runs of characters of a class, as `re.findall` of `[class]+` gives them. -/
def findRuns (inClass : Char → Bool) (s : String) : List (List Char) :=
  (s.toList.splitOnP fun c => !inClass c).filter fun run => run ≠ []

def wordCharacter (c : Char) : Bool := c.isLower || c.isDigit || c = '_'

def ideograph (c : Char) : Bool := 0x3400 ≤ c.toNat && c.toNat ≤ 0x9fff

def bigrams (run : List Char) : List String :=
  (List.range (max 1 (run.length - 1))).map fun index => String.ofList ((run.drop index).take 2)

def retrievalTerms (lower : String → String) (value : String) : Finset String :=
  ((findRuns wordCharacter (lower value)).map String.ofList ++
    (findRuns ideograph (lower value)).flatMap bigrams).toFinset

section Scores

variable {F : Floats}

def termRelevance (lower : String → String) (queryTerms : Finset String) (content : String) :
    F.Double :=
  if queryTerms = ∅ then F.zero
  else F.ratio (queryTerms ∩ retrievalTerms lower content).card queryTerms.card

/-- `max(0, score)` is 0 when the score is `nan`. -/
def cosineSimilarity (queryEmbedding chunkEmbedding : List F.Double) : F.Double :=
  if queryEmbedding.length ≠ chunkEmbedding.length then F.zero
  else
    let queryNorm := F.sqrt (F.sum (queryEmbedding.map fun value => F.mul value value))
    let chunkNorm := F.sqrt (F.sum (chunkEmbedding.map fun value => F.mul value value))
    if F.eq queryNorm F.zero || F.eq chunkNorm F.zero then F.zero
    else
      let score := F.div (F.sum (List.zipWith F.mul queryEmbedding chunkEmbedding))
        (F.mul queryNorm chunkNorm)
      if F.lt F.zero score then score else F.zero

def scoreChunk (lower : String → String) (request : RetrievalRequest F)
    (queryTerms : Finset String) (chunk : DocumentChunk F) : F.Double :=
  if request.queryEmbedding ≠ [] ∧ chunk.embedding ≠ [] then
    cosineSimilarity request.queryEmbedding chunk.embedding
  else termRelevance lower queryTerms chunk.content

end Scores

section Retrieve

variable {F : Floats} (lower : String → String)

def canRead (chunk : DocumentChunk F) (request : RetrievalRequest F) : Bool :=
  if chunk.tenantId ≠ request.tenantId then false
  else if request.allowedWorkspaceIds ≠ [] ∧ chunk.workspaceId ∉ request.allowedWorkspaceIds then false
  else if request.allowedKnowledgeBaseIds ≠ [] ∧
      chunk.knowledgeBaseId ∉ request.allowedKnowledgeBaseIds then false
  else if chunk.sensitivityLevel > request.clearanceLevel then false
  else if chunk.aclSubjects = [] then true
  else chunk.aclSubjects.any fun subject => subject ∈ request.aclSubjects

def resultOf (chunk : DocumentChunk F) (score : F.Double) : RetrievalResult F where
  documentId := chunk.documentId
  chunkId := chunk.id
  sourceDocumentId := chunk.sourceDocumentId
  sourceUri := chunk.sourceUri
  excerpt := String.ofList (chunk.content.toList.take 240)
  score := score
  citation := chunk.citation
  sensitivityLevel := chunk.sensitivityLevel

def resultFor (request : RetrievalRequest F) (queryTerms : Finset String) (chunk : DocumentChunk F) :
    Option (RetrievalResult F) :=
  if canRead chunk request then
    let score := scoreChunk lower request queryTerms chunk
    if F.le score F.zero then none else some (resultOf chunk score)
  else none

/-- `sorted` with `reverse=True` keeps the order of results with one score. -/
def retrieveChunks (chunks : List (DocumentChunk F)) (request : RetrievalRequest F) :
    List (RetrievalResult F) :=
  ((chunks.filterMap (resultFor lower request (retrievalTerms lower request.query))).mergeSort
    fun a b => !F.lt a.score b.score).take request.limit

structure InMemoryKnowledgeService (F : Floats) where
  chunks : List (String × List (DocumentChunk F))

def InMemoryKnowledgeService.allChunks (service : InMemoryKnowledgeService F) :
    List (DocumentChunk F) :=
  service.chunks.flatMap Prod.snd

def InMemoryKnowledgeService.retrieve (service : InMemoryKnowledgeService F)
    (request : RetrievalRequest F) : List (RetrievalResult F) :=
  retrieveChunks lower service.allChunks request

/-- The rows of `knowledge_chunks`; the id is the primary key. -/
structure SqlKnowledgeService (F : Floats) where
  rows : List (DocumentChunk F)
  ids : (rows.map DocumentChunk.id).Nodup

def rowKey (chunk : DocumentChunk F) : Time ×ₗ String := toLex (chunk.createdAt, chunk.id)

def SqlKnowledgeService.select (service : SqlKnowledgeService F) (tenantId : String) :
    List (DocumentChunk F) :=
  Ranked.orderBy rowKey (service.rows.filter fun chunk => chunk.tenantId = tenantId)

def SqlKnowledgeService.retrieve (service : SqlKnowledgeService F) (request : RetrievalRequest F) :
    List (RetrievalResult F) :=
  retrieveChunks lower (service.select request.tenantId) request

end Retrieve

end Taroai.Knowledge
