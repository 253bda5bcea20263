import Mathlib
import Taroai.Knowledge.Noninterference
import Taroai.Knowledge.Services
import Taroai.Lib.Patterns
import Taroai.Lib.Whitespace

/-! The chunks of a document: `knowledge/ingestion.py`. Offsets are into the content without the
white space around it. -/

namespace Taroai.Knowledge

inductive IngestionError where
  | maxCharacters
  | overlapCharacters
  | outOfFuel
deriving DecidableEq, Repr

/-- A chunk with what its citation says, the number of chunks apart. -/
structure TextChunk where
  content : String
  sourceDocumentId : String
  chunkIndex : Nat
  charStart : Nat
  charEnd : Nat
  nonempty : content ≠ ""
deriving Repr

def TextChunk.citation (chunk : TextChunk) (chunkCount : Nat) : Json.Items :=
  [("source_document_id", .text chunk.sourceDocumentId), ("chunk_index", .int chunk.chunkIndex),
    ("char_start", .int chunk.charStart), ("char_end", .int chunk.charEnd),
    ("chunk_count", .int chunkCount)]

section Text

variable (text : List Char)

/-- `text[start:stop]` -/
def slice (start stop : Nat) : List Char := (text.drop start).take (stop - start)

/-- `[r"\n\s*\n", r"(?<=[.!?])\s+", r"\s+"]` -/
def boundaryPatterns : List (Pattern Unit) :=
  [do Pattern.one (· = '\n'); Pattern.atLeast 0 isSpace; Pattern.one (· = '\n'),
    do Pattern.behind (fun c => c = '.' || c = '!' || c = '?'); Pattern.atLeast 1 isSpace,
    Pattern.atLeast 1 isSpace]

def splitBoundary (start stop : Nat) : Nat :=
  let minimum := start + max 1 ((stop - start) / 2)
  let found := boundaryPatterns.findSome? fun pattern =>
    ((pattern.starts (slice text start stop)).reverse.map (start + ·)).find? fun splitAt =>
      minimum ≤ splitAt
  found.getD stop

def skipLeadingWhitespace (start : Nat) : Nat :=
  start + ((text.drop start).takeWhile isSpace).length

/-- Where the chunk that begins at `start` ends. -/
def chunkEnd (maxCharacters start : Nat) : Nat :=
  let stop := min (start + maxCharacters) text.length
  if stop < text.length then
    let splitAt := splitBoundary text start stop
    if start < splitAt then splitAt else stop
  else stop

def nextStart (overlapCharacters start stop : Nat) : Nat :=
  let next := stop - overlapCharacters
  skipLeadingWhitespace text (if next ≤ start then stop else next)

def appendChunk (sourceDocumentId : String) (chunks : List TextChunk) (start stop : Nat) :
    List TextChunk :=
  let content := String.ofList (stripChars isSpace (slice text start stop))
  if nonempty : content ≠ "" then
    chunks ++ [{ content, sourceDocumentId, chunkIndex := chunks.length, charStart := start
                 charEnd := stop, nonempty }]
  else chunks

def chunkLoop (sourceDocumentId : String) (maxCharacters overlapCharacters : Nat) :
    Nat → Nat → List TextChunk → Option (List TextChunk)
  | 0, _, _ => none
  | fuel + 1, start, chunks =>
    if start < text.length then
      let stop := chunkEnd text maxCharacters start
      let chunks := appendChunk text sourceDocumentId chunks start stop
      if text.length ≤ stop then some chunks
      else
        chunkLoop sourceDocumentId maxCharacters overlapCharacters fuel
          (nextStart text overlapCharacters start stop) chunks
    else some chunks

end Text

def textChunks (fuel : Nat) (content sourceDocumentId : String)
    (maxCharacters overlapCharacters : Int) : Except IngestionError (List TextChunk) :=
  if maxCharacters ≤ 0 then .error .maxCharacters
  else if overlapCharacters < 0 ∨ maxCharacters ≤ overlapCharacters then .error .overlapCharacters
  else
    match chunkLoop (strippedChars content) sourceDocumentId maxCharacters.toNat
      overlapCharacters.toNat fuel 0 [] with
    | none => .error .outOfFuel
    | some chunks => .ok chunks

def chunkTextContent (F : Floats) (fuel : Nat) (content sourceDocumentId : String)
    (maxCharacters overlapCharacters : Int) : Except IngestionError (List (DocumentChunkCreate F)) :=
  do
    let chunks ← textChunks fuel content sourceDocumentId maxCharacters overlapCharacters
    return chunks.map fun chunk =>
      { content := chunk.content, citation := chunk.citation chunks.length }

section Rounds

variable {text : List Char} {start stop maxCharacters : Nat}

theorem length_slice_le (text : List Char) (start stop : Nat) : (slice text start stop).length ≤ stop - start := by
  rw [slice, List.length_take]
  exact Nat.min_le_left _ _

theorem splitBoundary_le (text : List Char) (ordered : start ≤ stop) : splitBoundary text start stop ≤ stop := by
  unfold splitBoundary
  dsimp only
  cases found : boundaryPatterns.findSome? fun pattern =>
    ((pattern.starts (slice text start stop)).reverse.map (start + ·)).find? fun splitAt =>
      start + max 1 ((stop - start) / 2) ≤ splitAt with
  | none => exact Nat.le_refl _
  | some splitAt =>
    obtain ⟨pattern, -, first⟩ := List.exists_of_findSome?_eq_some found
    obtain ⟨place, among, rfl⟩ := List.mem_map.mp (List.mem_of_find?_eq_some first)
    have inside := Pattern.mem_starts_lt (List.mem_reverse.mp among)
    have short := length_slice_le text start stop
    change start + place ≤ stop
    omega

theorem chunkEnd_spec (left : start < text.length) (some_ : 0 < maxCharacters) :
    start < chunkEnd text maxCharacters start ∧
      chunkEnd text maxCharacters start ≤ start + maxCharacters ∧
        chunkEnd text maxCharacters start ≤ text.length := by
  have window : start ≤ min (start + maxCharacters) text.length := by omega
  have split := splitBoundary_le text window
  unfold chunkEnd
  dsimp only
  split_ifs with inner later
  · omega
  · omega
  · omega

theorem skipLeadingWhitespace_spec (text : List Char) (start : Nat) :
    start ≤ skipLeadingWhitespace text start ∧ ∀ i c, start ≤ i →
      i < skipLeadingWhitespace text start → text[i]? = some c → isSpace c = true := by
  unfold skipLeadingWhitespace
  refine ⟨Nat.le_add_right _ _, fun i c low high here => ?_⟩
  have inside : i - start < ((text.drop start).takeWhile isSpace).length := by omega
  have placed : ((text.drop start).takeWhile isSpace)[i - start]? = some c := by
    obtain ⟨rest, whole⟩ := List.takeWhile_prefix isSpace (l := text.drop start)
    calc ((text.drop start).takeWhile isSpace)[i - start]?
        = ((text.drop start).takeWhile isSpace ++ rest)[i - start]? :=
          (List.getElem?_append_left inside).symm
      _ = text[start + (i - start)]? := by rw [whole, List.getElem?_drop]
      _ = some c := by rw [Nat.add_sub_cancel' low, here]
  exact List.all_eq_true.mp List.all_takeWhile c (List.mem_of_getElem? placed)

theorem nextStart_spec (text : List Char) (overlapCharacters : Nat) (later : start < stop) :
    start < nextStart text overlapCharacters start stop ∧ ∀ i c, stop ≤ i →
      i < nextStart text overlapCharacters start stop → text[i]? = some c → isSpace c = true := by
  unfold nextStart
  dsimp only
  split_ifs with back
  · obtain ⟨onward, spaces⟩ := skipLeadingWhitespace_spec text stop
    exact ⟨by omega, spaces⟩
  · obtain ⟨onward, spaces⟩ := skipLeadingWhitespace_spec text (stop - overlapCharacters)
    exact ⟨by omega, fun i c low => spaces i c (by omega)⟩

end Rounds

section Coverage

variable {text : List Char} {sourceDocumentId : String} {start maxCharacters : Nat}
  {overlapCharacters fuel : Nat} {chunks : List TextChunk}

def LiesIn (text : List Char) (chunk : TextChunk) (i : Nat) : Prop :=
  ∃ front back, slice text chunk.charStart chunk.charEnd = front ++ (chunk.content.toList ++ back) ∧
    chunk.charStart + front.length ≤ i ∧
      i < chunk.charStart + front.length + chunk.content.toList.length

structure ChunkOf (text : List Char) (sourceDocumentId : String) (maxCharacters : Nat)
    (chunk : TextChunk) : Prop where
  source : chunk.sourceDocumentId = sourceDocumentId
  ordered : chunk.charStart < chunk.charEnd
  inside : chunk.charEnd ≤ text.length
  short : chunk.charEnd ≤ chunk.charStart + maxCharacters
  content : chunk.content.toList = stripChars isSpace (slice text chunk.charStart chunk.charEnd)

structure Covering (text : List Char) (sourceDocumentId : String) (maxCharacters place : Nat)
    (chunks : List TextChunk) : Prop where
  each : ∀ chunk ∈ chunks, ChunkOf text sourceDocumentId maxCharacters chunk
  numbered : chunks.map TextChunk.chunkIndex = List.range chunks.length
  increasing : chunks.Pairwise fun one other => one.charStart < other.charStart
  before : ∀ chunk ∈ chunks, chunk.charStart < place
  covered : ∀ i c, i < place → text[i]? = some c → isSpace c = false →
    ∃ chunk ∈ chunks, LiesIn text chunk i

theorem stripChars_slice_eq_front {stop i : Nat} {c : Char} (low : start ≤ i) (high : i < stop)
    (here : text[i]? = some c) (shown : isSpace c = false) : ∃ front back,
      slice text start stop = front ++ (stripChars isSpace (slice text start stop) ++ back) ∧
        start + front.length ≤ i ∧
          i < start + front.length + (stripChars isSpace (slice text start stop)).length := by
  obtain ⟨front, back, whole, front_spaces, back_spaces⟩ :=
    exists_stripped isSpace (slice text start stop)
  have inside : i - start < stop - start := by omega
  have placed : (slice text start stop)[i - start]? = some c := by
    rw [slice, List.getElem?_take_of_lt inside, List.getElem?_drop, Nat.add_sub_cancel' low, here]
  refine ⟨front, back, whole, ?_, ?_⟩
  · by_contra early
    have left : i - start < front.length := by omega
    rw [whole, List.getElem?_append_left left] at placed
    rw [front_spaces c (List.mem_of_getElem? placed)] at shown
    cases shown
  · by_contra late
    have past_front : front.length ≤ i - start := by omega
    rw [whole, List.getElem?_append_right past_front, List.getElem?_append_right (by omega)] at placed
    rw [back_spaces c (List.mem_of_getElem? placed)] at shown
    cases shown

theorem Covering.append (covering : Covering text sourceDocumentId maxCharacters start chunks)
    (left : start < text.length) (positive : 0 < maxCharacters) {next : Nat} (onward : start < next)
    (passed : ∀ i c, chunkEnd text maxCharacters start ≤ i → i < next → text[i]? = some c →
      isSpace c = true) :
    Covering text sourceDocumentId maxCharacters next
      (appendChunk text sourceDocumentId chunks start (chunkEnd text maxCharacters start)) := by
  obtain ⟨later, short, inside⟩ := chunkEnd_spec left positive
  generalize chunkEnd text maxCharacters start = stop at later short inside passed ⊢
  -- A place before the next start is before this one, in this chunk, or white space.
  have shown {i : Nat} {c : Char} (low : start ≤ i) (high : i < next) (here : text[i]? = some c)
      (black : isSpace c = false) := by
    have before_stop : i < stop := by
      by_contra beyond
      rw [passed i c (by omega) high here] at black
      cases black
    exact stripChars_slice_eq_front low before_stop here black
  unfold appendChunk
  dsimp only
  by_cases nonempty : String.ofList (stripChars isSpace (slice text start stop)) ≠ ""
  · rw [dif_pos nonempty]
    refine ⟨List.forall_mem_append.mpr ⟨covering.each, ?_⟩, ?_, ?_, ?_, fun i c high here black => ?_⟩
    · refine List.forall_mem_singleton.mpr ⟨rfl, later, inside, short, ?_⟩
      exact String.toList_ofList
    · rw [List.map_append, covering.numbered, List.length_append, List.length_singleton,
        List.range_succ]
      rfl
    · refine List.pairwise_append.mpr ⟨covering.increasing, List.pairwise_singleton _ _, ?_⟩
      exact fun one among => List.forall_mem_singleton.mpr (covering.before one among)
    · refine List.forall_mem_append.mpr ⟨fun chunk among => ?_, List.forall_mem_singleton.mpr onward⟩
      exact Nat.lt_trans (covering.before chunk among) onward
    · by_cases old : i < start
      · obtain ⟨chunk, among, lies⟩ := covering.covered i c old here black
        exact ⟨chunk, List.mem_append_left _ among, lies⟩
      · obtain ⟨front, back, whole, low, upto⟩ := shown (by omega) high here black
        refine ⟨_, List.mem_append_right _ (List.mem_singleton_self _), front, back, ?_⟩
        rw [String.toList_ofList]
        exact ⟨whole, low, upto⟩
  · rw [dif_neg nonempty]
    rw [ne_eq, not_not, String.ofList_eq_empty_iff] at nonempty
    refine ⟨covering.each, covering.numbered, covering.increasing, ?_, fun i c high here black => ?_⟩
    · exact fun chunk among => Nat.lt_trans (covering.before chunk among) onward
    · by_cases old : i < start
      · exact covering.covered i c old here black
      · obtain ⟨front, back, whole, low, upto⟩ := shown (by omega) high here black
        rw [nonempty, List.length_nil] at upto
        omega

theorem chunkLoop_spec (overlapCharacters : Nat)
    (covering : Covering text sourceDocumentId maxCharacters start chunks)
    (positive : 0 < maxCharacters) (some_ : 0 < fuel) (enough : text.length < fuel + start) :
    ∃ result place, chunkLoop text sourceDocumentId maxCharacters overlapCharacters fuel start
      chunks = some result ∧ text.length ≤ place ∧
        Covering text sourceDocumentId maxCharacters place result := by
  induction fuel generalizing start chunks with
  | zero => omega
  | succ fuel ih =>
    rw [chunkLoop]
    by_cases left : start < text.length
    · rw [if_pos left]
      obtain ⟨later, -, inside⟩ := chunkEnd_spec left positive
      dsimp only
      split_ifs with done
      · refine ⟨_, text.length, rfl, Nat.le_refl _, covering.append left positive left ?_⟩
        exact fun i c low high => by omega
      · obtain ⟨onward, passed⟩ := nextStart_spec text overlapCharacters later
        exact ih (covering.append left positive onward passed) (by omega) (by omega)
    · rw [if_neg left]
      exact ⟨chunks, start, rfl, Nat.not_lt.mp left, covering⟩

theorem chunkLoop_mono {result : List TextChunk} {more : Nat} (le : fuel ≤ more)
    (ran : chunkLoop text sourceDocumentId maxCharacters overlapCharacters fuel start chunks =
      some result) :
    chunkLoop text sourceDocumentId maxCharacters overlapCharacters more start chunks =
      some result := by
  induction fuel generalizing start chunks more with
  | zero => cases ran
  | succ fuel ih =>
    obtain ⟨more, rfl⟩ := Nat.exists_eq_add_one_of_ne_zero (by omega : more ≠ 0)
    rw [chunkLoop] at ran ⊢
    by_cases left : start < text.length
    · rw [if_pos left] at ran ⊢
      dsimp only at ran ⊢
      split_ifs at ran ⊢ with done
      · exact ran
      · exact ih (by omega) ran
    · rw [if_neg left] at ran ⊢
      exact ran

structure Chunked (text : List Char) (sourceDocumentId : String) (maxCharacters : Nat)
    (chunks : List TextChunk) : Prop where
  nonempty : ∀ chunk ∈ chunks, chunk.content ≠ ""
  short : ∀ chunk ∈ chunks, chunk.content.toList.length ≤ maxCharacters
  each : ∀ chunk ∈ chunks, ChunkOf text sourceDocumentId maxCharacters chunk
  numbered : chunks.map TextChunk.chunkIndex = List.range chunks.length
  increasing : chunks.Pairwise fun one other => one.charStart < other.charStart
  covered : ∀ i c, text[i]? = some c → isSpace c = false → ∃ chunk ∈ chunks, LiesIn text chunk i

theorem length_stripChars_le (p : Char → Bool) (chars : List Char) :
    (stripChars p chars).length ≤ chars.length := by
  obtain ⟨front, back, whole, -, -⟩ := exists_stripped p chars
  have lengths := congrArg List.length whole
  rw [List.length_append, List.length_append] at lengths
  omega

theorem Covering.chunked {place : Nat} (reached : text.length ≤ place)
    (covering : Covering text sourceDocumentId maxCharacters place chunks) :
    Chunked text sourceDocumentId maxCharacters chunks where
  nonempty chunk _ := chunk.nonempty
  short := by
    intro chunk among
    have holds := covering.each chunk among
    have stripped := length_stripChars_le isSpace (slice text chunk.charStart chunk.charEnd)
    have cut := length_slice_le text chunk.charStart chunk.charEnd
    have short := holds.short
    rw [holds.content]
    omega
  each := covering.each
  numbered := covering.numbered
  increasing := covering.increasing
  covered := by
    intro i c here shown
    have inside : i < text.length := (List.getElem?_eq_some_iff.mp here).1
    exact covering.covered i c (by omega) here shown

/-- The chunker ends, and its chunks cover the text. -/
theorem chunks_cover (F : Floats) (content sourceDocumentId : String)
    {maxCharacters overlapCharacters : Int} (overlap : 0 ≤ overlapCharacters)
    (fits : overlapCharacters < maxCharacters) :
    ∃ chunks : List TextChunk, Chunked (strippedChars content) sourceDocumentId maxCharacters.toNat
      chunks ∧ ∀ fuel, (strippedChars content).length < fuel →
        textChunks fuel content sourceDocumentId maxCharacters overlapCharacters = .ok chunks ∧
        chunkTextContent F fuel content sourceDocumentId maxCharacters overlapCharacters =
          .ok (chunks.map fun chunk =>
            { content := chunk.content, citation := chunk.citation chunks.length }) := by
  have start : Covering (strippedChars content) sourceDocumentId maxCharacters.toNat 0 [] :=
    { each := by simp
      numbered := rfl
      increasing := List.Pairwise.nil
      before := by simp
      covered := by omega }
  obtain ⟨chunks, place, ran, reached, covering⟩ :=
    chunkLoop_spec overlapCharacters.toNat start (by omega)
      (Nat.succ_pos (strippedChars content).length) (by omega)
  refine ⟨chunks, covering.chunked reached, fun fuel enough => ?_⟩
  have chunked : textChunks fuel content sourceDocumentId maxCharacters overlapCharacters =
      .ok chunks := by
    rw [textChunks, if_neg (by omega), if_neg (by omega), chunkLoop_mono (by omega) ran]
  refine ⟨chunked, ?_⟩
  rw [chunkTextContent, chunked]
  rfl

def paragraphs : String := "aaaa     \n\nbbbbb"

theorem paragraphs_covered : ∃ chunks : List TextChunk,
    Chunked (strippedChars paragraphs) "document" 10 chunks ∧
      chunkTextContent exactFloats 17 paragraphs "document" 10 8 =
        .ok (chunks.map fun chunk =>
          { content := chunk.content, citation := chunk.citation chunks.length }) := by
  obtain ⟨chunks, chunked, ran⟩ :=
    chunks_cover exactFloats paragraphs "document" (by decide : (0 : ℤ) ≤ 8) (by decide : (8 : ℤ) < 10)
  exact ⟨chunks, chunked, (ran 17 (by decide +kernel)).2⟩

/-- The break is found by the next chunk, which then ends before this one. -/
theorem ends_not_increasing : ¬∀ (fuel : Nat) (content sourceDocumentId : String)
    (maxCharacters overlapCharacters : Int) (chunks : List TextChunk), 0 ≤ overlapCharacters →
    overlapCharacters < maxCharacters →
    textChunks fuel content sourceDocumentId maxCharacters overlapCharacters = .ok chunks →
    chunks.Pairwise fun one other =>
      one.charStart < other.charStart ∧ one.charEnd < other.charEnd := by
  intro all
  have ends : (textChunks 17 paragraphs "document" 10 8).toOption.map (List.map TextChunk.charEnd) =
      some [10, 9, 16] := by decide +kernel
  cases ran : textChunks 17 paragraphs "document" 10 8 with
  | error e =>
    rw [ran] at ends
    cases ends
  | ok chunks =>
    rw [ran] at ends
    have ends_eq : chunks.map TextChunk.charEnd = [10, 9, 16] := Option.some.inj ends
    have increasing := all 17 paragraphs "document" 10 8 chunks (by decide) (by decide) ran
    have ordered := List.pairwise_map.mpr (increasing.imp And.right)
    rw [ends_eq] at ordered
    exact absurd ordered (by decide)

end Coverage

end Taroai.Knowledge
