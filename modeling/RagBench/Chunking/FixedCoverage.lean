import Mathlib.Data.List.Dedup
import Mathlib.Order.Bounds.Basic
import RagBench.Chunking.Fixed
import RagBench.Related

/-!
# What fixed chunks cover

A window that lies between two blocks has no source, and the loop over the
windows drops it.  The check of the ordinals then fails, so a document is
chunked exactly when every window meets a block.
-/

namespace RagBench

/-- The block of `span` has a character in the given range. -/
def Span.Meets (span : Span) (charStart charEnd : ℕ) : Prop :=
  ∃ position, span.start ≤ position ∧ position < span.stop ∧
    charStart ≤ position ∧ position < charEnd

instance (span : Span) (charStart charEnd : ℕ) :
    Decidable (span.Meets charStart charEnd) :=
  decidable_of_iff (max span.start charStart < min span.stop charEnd)
    ⟨fun below => ⟨max span.start charStart, by omega, by omega, by omega,
      by omega⟩, fun ⟨_, _, _, _, _⟩ => by omega⟩

/-- The blocks that have a character in the given range, in order. -/
def sourceBlocks (spans : List Span) (charStart charEnd : ℕ) :
    List DocumentBlock :=
  (spans.filter fun span => span.Meets charStart charEnd).map Span.block

theorem overlapping_eq_sourceBlocks {spans : List Span} {charStart charEnd : ℕ}
    (proper : ∀ span ∈ spans, span.start < span.stop)
    (nonempty : charStart < charEnd) :
    overlapping spans charStart charEnd =
      sourceBlocks spans charStart charEnd := by
  unfold overlapping sourceBlocks
  congr 1
  refine List.filter_congr fun span member => decide_eq_decide.mpr ?_
  have inside := proper span member
  constructor
  · rintro ⟨after, before⟩
    exact ⟨max span.start charStart, by omega, by omega, by omega, by omega⟩
  · rintro ⟨position, _, _, _, _⟩
    omega

/-- A window of a tokenization has characters. -/
theorem TokenWindow.Faithful.nonempty {text : String}
    {pieces : List (List UInt8)} {window : TokenWindow}
    (faithful : window.Faithful text pieces)
    (proper : ∀ piece ∈ pieces, piece ≠ []) :
    window.charStart < window.charEnd := by
  by_contra empty
  have content : window.content.toList = [] := by
    rw [faithful.sliced, slice, String.toList_ofList, List.drop_eq_nil_iff,
      List.length_take]
    omega
  have bytes := Utf8.decode_eq_some_iff.mp faithful.decoded
  rw [content] at bytes
  have within : window.tokenStart < pieces.length :=
    lt_of_lt_of_le faithful.proper faithful.bounded
  have first : pieces[window.tokenStart] ∈
      (pieces.take window.tokenEnd).drop window.tokenStart := by
    refine List.mem_of_getElem? (i := 0) ?_
    rw [List.getElem?_drop, List.getElem?_take, Nat.add_zero,
      if_pos faithful.proper]
    exact List.getElem?_eq_getElem _
  exact proper _ (List.getElem_mem _)
    (List.flatten_eq_nil_iff.mp bytes _ first)

private theorem foldl_min_isLeast (first : ℕ) (rest : List ℕ) :
    IsLeast {number | number ∈ first :: rest} (rest.foldl min first) := by
  induction rest generalizing first with
  | nil => exact ⟨by simp, fun number member => by simp_all⟩
  | cons second rest induction =>
      obtain ⟨member, least⟩ := induction (min first second)
      constructor
      · rcases List.mem_cons.mp member with same | later
        · rw [List.foldl_cons, same]
          rcases min_choice first second with left | right
          · simp [left]
          · simp [right]
        · exact List.mem_cons_of_mem _ (List.mem_cons_of_mem _ later)
      · intro number found
        have small := least (List.mem_cons_self ..)
        rcases List.mem_cons.mp found with rfl | later
        · exact small.trans (min_le_left _ _)
        · rcases List.mem_cons.mp later with rfl | later
          · exact small.trans (min_le_right _ _)
          · exact least (List.mem_cons_of_mem _ later)

private theorem foldl_max_isGreatest (first : ℕ) (rest : List ℕ) :
    IsGreatest {number | number ∈ first :: rest} (rest.foldl max first) := by
  induction rest generalizing first with
  | nil => exact ⟨by simp, fun number member => by simp_all⟩
  | cons second rest induction =>
      obtain ⟨member, greatest⟩ := induction (max first second)
      constructor
      · rcases List.mem_cons.mp member with same | later
        · rw [List.foldl_cons, same]
          rcases max_choice first second with left | right
          · simp [left]
          · simp [right]
        · exact List.mem_cons_of_mem _ (List.mem_cons_of_mem _ later)
      · intro number found
        have large := greatest (List.mem_cons_self ..)
        rcases List.mem_cons.mp found with rfl | later
        · exact (le_max_left _ _).trans large
        · rcases List.mem_cons.mp later with rfl | later
          · exact (le_max_right _ _).trans large
          · exact greatest (List.mem_cons_of_mem _ later)

namespace FixedChunker

/-- What a record says about its window and the blocks under it. -/
structure Describes (tools : ChunkTools) (chunker : FixedChunker)
    (document parseSnapshot : String) (spans : List Span)
    (located : TokenWindow × ℕ) (record : ChunkRecord) : Prop where
  ordinal : record.ordinal = located.2
  documentId : record.documentId = document
  parseSnapshotId : record.parseSnapshotId = parseSnapshot
  content : record.content = located.1.content
  tokenStart : record.tokenStart = located.1.tokenStart
  tokenEnd : record.tokenEnd = located.1.tokenEnd
  sourceBlockIds : record.sourceBlockIds =
    (sourceBlocks spans located.1.charStart located.1.charEnd).map
      DocumentBlock.blockId
  pageStart : IsLeast {page | ∃ block ∈
    sourceBlocks spans located.1.charStart located.1.charEnd,
      block.page = page} record.pageStart
  pageEnd : IsGreatest {page | ∃ block ∈
    sourceBlocks spans located.1.charStart located.1.charEnd,
      block.page = page} record.pageEnd
  chunkId : ∃ hash,
    tools.canonicalJsonHash
        (.ofJson (identity document located.2 located.1)) = .ok hash ∧
      record.chunkId = parseSnapshot ++ ":" ++ chunker.strategyHash ++ ":" ++
        slice hash 0 24

theorem identity_hashed (tools : ChunkTools) (document : String)
    (ordinal : ℕ) (window : TokenWindow) :
    ∃ hash, tools.canonicalJsonHash
      (.ofJson (identity document ordinal window)) = .ok hash := by
  have compliant : (identity document ordinal window).isCompliant := rfl
  exact ⟨_, bind_eq_ok.mpr
    ⟨_, PyValue.canonicalJson_ofJson.mpr ⟨compliant, rfl⟩, rfl⟩⟩

section Loop

variable (tools : ChunkTools) (chunker : FixedChunker)
  (document parseSnapshot : String) {spans : List Span} {text : String}
  {pieces : List (List UInt8)}

/-- The section path that all blocks share. -/
def sharedSection (blocks : List DocumentBlock) : List String :=
  match (blocks.map DocumentBlock.sectionPath).dedup with
  | [path] => path
  | _ => []

theorem chunk_describes (ordinal : ℕ) {window : TokenWindow}
    {first : DocumentBlock} {rest : List DocumentBlock}
    (faithful : window.Faithful text pieces)
    (sources : sourceBlocks spans window.charStart window.charEnd =
      first :: rest) :
    ∃ record,
      chunk tools chunker document parseSnapshot ordinal window first rest =
        .ok record ∧
      Describes tools chunker document parseSnapshot spans (window, ordinal)
        record := by
  obtain ⟨hash, hashed⟩ := identity_hashed tools document ordinal window
  have pages : ∀ page,
      page ∈ first.page :: rest.map DocumentBlock.page ↔
        ∃ block ∈ first :: rest, block.page = page := by
    intro page
    rw [← List.map_cons, List.mem_map]
  have least := foldl_min_isLeast first.page (rest.map DocumentBlock.page)
  have greatest :=
    foldl_max_isGreatest first.page (rest.map DocumentBlock.page)
  simp only [pages] at least greatest
  obtain ⟨lowest, _, lowestPage⟩ := least.1
  have positive := lowest.pagePositive
  have ordered := least.2 greatest.1
  have proper := faithful.proper
  unfold chunk
  rw [hashed]
  dsimp only [bind, Except.bind]
  let fields : ChunkFields :=
    { chunkId := parseSnapshot ++ ":" ++ chunker.strategyHash ++ ":" ++
        slice hash 0 24
      documentId := document
      parseSnapshotId := parseSnapshot
      strategy := chunker.strategy
      strategyHash := chunker.strategyHash
      ordinal := ordinal
      pageStart := (rest.map DocumentBlock.page).foldl min first.page
      pageEnd := (rest.map DocumentBlock.page).foldl max first.page
      sectionPath := sharedSection (first :: rest)
      content := window.content
      tokenCount := window.tokenEnd - window.tokenStart
      tokenStart := window.tokenStart
      tokenEnd := window.tokenEnd
      sourceBlockIds := (first :: rest).map DocumentBlock.blockId }
  have validPages : 0 < fields.pageStart ∧
      fields.pageStart ≤ fields.pageEnd := by
    refine ⟨?_, ordered⟩
    rw [lowestPage] at positive
    exact positive
  have validTokens : 0 ≤ fields.tokenCount ∧
      fields.tokenStart ≤ fields.tokenEnd := by
    refine ⟨?_, proper.le⟩
    dsimp only [fields]
    omega
  obtain ⟨record, built, same⟩ :=
    ChunkFields.validate_ok validPages validTokens
  refine ⟨record, built, ?_⟩
  exact {
    ordinal := by rw [same]
    documentId := by rw [same]
    parseSnapshotId := by rw [same]
    content := by rw [same]
    tokenStart := by rw [same]
    tokenEnd := by rw [same]
    sourceBlockIds := by rw [same, sources]
    pageStart := by
      rw [same, sources]
      exact least
    pageEnd := by
      rw [same, sources]
      exact greatest
    chunkId := ⟨hash, hashed, by rw [same]⟩ }

/-- The windows with a source, with their positions. -/
def kept (spans : List Span) (windows : List TokenWindow) (ordinal : ℕ) :
    List (TokenWindow × ℕ) :=
  (windows.zipIdx ordinal).filter fun located =>
    sourceBlocks spans located.1.charStart located.1.charEnd ≠ []

/-- The loop records exactly the windows with a source. -/
theorem chunks_describe (proper : ∀ span ∈ spans, span.start < span.stop)
    (nonempty : ∀ piece ∈ pieces, piece ≠ []) (windows : List TokenWindow)
    (faithful : ∀ window ∈ windows, window.Faithful text pieces)
    (ordinal : ℕ) :
    ∃ records,
      chunks tools chunker document parseSnapshot spans ordinal windows =
        .ok records ∧
      List.Forall₂ (Describes tools chunker document parseSnapshot spans)
        (kept spans windows ordinal) records := by
  induction windows generalizing ordinal with
  | nil => exact ⟨[], rfl, .nil⟩
  | cons window windows induction =>
      obtain ⟨head, later⟩ := List.forall_mem_cons.mp faithful
      obtain ⟨records, found, described⟩ := induction later (ordinal + 1)
      have overlap := overlapping_eq_sourceBlocks proper
        (head.nonempty nonempty)
      cases sources : sourceBlocks spans window.charStart window.charEnd with
      | nil =>
          refine ⟨records, ?_, ?_⟩
          · rw [chunks, overlap, sources]
            exact found
          · rw [kept, List.zipIdx_cons,
              List.filter_cons_of_neg (by simp [sources])]
            exact described
      | cons first rest =>
          obtain ⟨record, built, describes⟩ :=
            chunk_describes tools chunker document parseSnapshot ordinal head
              sources
          refine ⟨record :: records, ?_, ?_⟩
          · rw [chunks, overlap, sources]
            dsimp only
            rw [built, found]
            rfl
          · rw [kept, List.zipIdx_cons,
              List.filter_cons_of_pos (by simp [sources])]
            exact .cons describes described

end Loop

/-! ## The checks on the records -/

theorem gap_eq_false_iff {records : List ChunkRecord} :
    gap records = false ↔ records.IsChain fun left right =>
      right.tokenStart ≤ left.tokenEnd ∧
        right.ordinal = left.ordinal + 1 := by
  induction records with
  | nil => exact ⟨fun _ => .nil, fun _ => rfl⟩
  | cons left records induction =>
      cases records with
      | nil => exact ⟨fun _ => .singleton _, fun _ => rfl⟩
      | cons right records =>
          rw [List.isChain_cons_cons, ← induction]
          unfold gap
          rw [List.tail_cons, List.tail_cons, List.zip_cons_cons,
            List.any_cons, Bool.or_eq_false_iff]
          refine and_congr_left fun _ => ?_
          rw [decide_eq_false_iff_not, not_or, not_lt, not_not]

theorem checkRecords_eq_ok_iff {totalTokens : ℕ} {first : ChunkRecord}
    {rest : List ChunkRecord} :
    checkRecords totalTokens first rest = .ok () ↔
      first.tokenStart = 0 ∧
      ((first :: rest).getLast?).map (·.tokenEnd) = some totalTokens ∧
      ((first :: rest).IsChain fun left right =>
        right.tokenStart ≤ left.tokenEnd ∧
          right.ordinal = left.ordinal + 1) ∧
      ((first :: rest).map (·.chunkId)).Nodup := by
  rw [List.getLast?_cons, Option.map_some, Option.some_inj,
    ← gap_eq_false_iff, ← List.getLastD_eq_getLast?]
  unfold checkRecords
  dsimp only
  by_cases uncovered : first.tokenStart ≠ 0 ∨
      (rest.getLastD first).tokenEnd ≠ totalTokens
  · rw [if_pos uncovered]
    refine ⟨fun success => (by cases success), ?_⟩
    rintro ⟨starts, ends, _⟩
    exact absurd uncovered (not_or.mpr ⟨not_not.mpr starts, not_not.mpr ends⟩)
  · rw [if_neg uncovered]
    rw [not_or, not_not, not_not] at uncovered
    by_cases gaps : gap (first :: rest) = true
    · rw [if_pos gaps]
      refine ⟨fun success => (by cases success), ?_⟩
      rintro ⟨_, _, noGap, _⟩
      rw [noGap] at gaps
      cases gaps
    · rw [if_neg gaps]
      by_cases repeated : ((first :: rest).map (·.chunkId)).Nodup
      · rw [if_neg (not_not.mpr repeated)]
        exact ⟨fun _ => ⟨uncovered.1, uncovered.2, by simpa using gaps,
          repeated⟩, fun _ => rfl⟩
      · rw [if_pos repeated]
        exact ⟨fun success => (by cases success),
          fun ⟨_, _, _, distinct⟩ => absurd distinct repeated⟩

/-- The checks raise internal errors only. -/
theorem checkRecords_error {totalTokens : ℕ} {first : ChunkRecord}
    {rest : List ChunkRecord} {error : PyException}
    (failed : checkRecords totalTokens first rest = .error error) :
    ∃ message, error = .runtimeError message := by
  unfold checkRecords at failed
  dsimp only at failed
  split_ifs at failed
  all_goals cases failed
  all_goals exact ⟨_, rfl⟩

/-- Equal prefixes of hashes of `values` are hashes of equal texts. -/
def CollisionFree (tools : ChunkTools) (length : ℕ)
    (values : List Json) : Prop :=
  ∀ left ∈ values, ∀ right ∈ values, ∀ hash hash',
    tools.canonicalJsonHash (.ofJson left) = .ok hash →
    tools.canonicalJsonHash (.ofJson right) = .ok hash' →
    slice hash 0 length = slice hash' 0 length →
      PyValue.canonicalJson tools.floats (.ofJson left) =
        PyValue.canonicalJson tools.floats (.ofJson right)

/-- The identity of a chunk determines its position. -/
private theorem identity_injective {floats : FloatText} {document : String}
    {ordinal other : ℕ} {window window' : TokenWindow}
    (same : PyValue.canonicalJson floats
        (.ofJson (identity document ordinal window)) =
      PyValue.canonicalJson floats
        (.ofJson (identity document other window'))) :
    ordinal = other := by
  have written : PyValue.canonicalJson floats
      (.ofJson (identity document ordinal window)) = .ok _ :=
    PyValue.canonicalJson_ofJson.mpr ⟨rfl, rfl⟩
  have values := (PyValue.same_of_canonicalJson_eq written
    (same ▸ written)).lookup (by simp) (by simp) "ordinal"
  have numbers : Option.Rel Json.Same (some (.int ordinal))
      (some (.int other)) := values
  cases numbers with
  | some value =>
      cases value
      rfl

/-- What chunking promises about the chunks of one document. -/
structure DocumentCovered (spans : List Span) (pieces : List (List UInt8))
    (records : List ChunkRecord) : Prop where
  covered : ∀ token, token < pieces.length → ∃ record ∈ records,
    record.tokenStart ≤ token ∧ token < record.tokenEnd
  bounded : ∀ record ∈ records, record.tokenEnd ≤ pieces.length
  ordinals : records.map (·.ordinal) = List.range records.length
  sources : ∀ record ∈ records, ∃ charStart charEnd,
    CharBoundary pieces record.tokenStart charStart ∧
      CharBoundary pieces record.tokenEnd charEnd ∧
      record.sourceBlockIds =
        (sourceBlocks spans charStart charEnd).map DocumentBlock.blockId ∧
      IsLeast {page | ∃ block ∈ sourceBlocks spans charStart charEnd,
        block.page = page} record.pageStart ∧
      IsGreatest {page | ∃ block ∈ sourceBlocks spans charStart charEnd,
        block.page = page} record.pageEnd
  distinct : (records.map (·.chunkId)).Nodup

section Split

variable {tools : ChunkTools} {chunker : FixedChunker}
  {document parseSnapshot : String} {blocks : List DocumentBlock}
  {pieces : List (List UInt8)} {text : String} {spans : List Span}
  {windows : List TokenWindow}

theorem split_of_same {source : String} (nonempty : blocks ≠ [])
    (same : ∀ block ∈ blocks,
      (block.documentId, block.parseSnapshotId, block.sourceSha256) =
        (document, parseSnapshot, source)) :
    chunker.split tools blocks = (do
      let windows ← safeTokenWindows tools.encoding (sourceText blocks).1
        chunker.size chunker.overlap
      let records ← chunks tools chunker document parseSnapshot
        (sourceText blocks).2 0 windows
      match records with
      | [] => return []
      | first :: rest =>
          let tokens ← tools.encoding.encode (sourceText blocks).1
          checkRecords tokens.length first rest
          return records) := by
  have single : (blocks.map fun item =>
      (item.documentId, item.parseSnapshotId, item.sourceSha256)).dedup =
        [(document, parseSnapshot, source)] := by
    have repeated : (blocks.map fun item =>
        (item.documentId, item.parseSnapshotId, item.sourceSha256)) =
          List.replicate blocks.length (document, parseSnapshot, source) := by
      refine List.eq_replicate_iff.mpr ⟨List.length_map _, ?_⟩
      intro identity member
      obtain ⟨block, found, rfl⟩ := List.mem_map.mp member
      exact same block found
    rw [repeated, List.replicate_dedup]
    simpa using nonempty
  unfold split
  rw [if_neg (by simpa using nonempty)]
  rewrite [single]
  rfl

private theorem identity_of_single {identity : String × String × String}
    (single : (blocks.map fun item =>
      (item.documentId, item.parseSnapshotId, item.sourceSha256)).dedup =
        [identity]) :
    ∀ block ∈ blocks,
      (block.documentId, block.parseSnapshotId, block.sourceSha256) =
        identity := by
  intro block member
  have found : (block.documentId, block.parseSnapshotId,
      block.sourceSha256) ∈ [identity] := by
    rw [← single, List.mem_dedup]
    exact List.mem_map_of_mem member
  exact List.mem_singleton.mp found

/-- Blocks of several sources are rejected. -/
theorem split_mixed (nonempty : blocks ≠ [])
    (mixed : ¬∃ identity, ∀ block ∈ blocks,
      (block.documentId, block.parseSnapshotId, block.sourceSha256) =
        identity) :
    chunker.split tools blocks = .error (.valueError
      "blocks must belong to one document and parse snapshot") := by
  unfold split
  rw [if_neg (by simpa using nonempty)]
  dsimp only [bind, Except.bind, pure, Except.pure]
  split
  · rename_i document parseSnapshot source single
    refine absurd ⟨(document, parseSnapshot, source), ?_⟩ mixed
    exact identity_of_single single
  · rfl

theorem same_of_split {records : List ChunkRecord} (nonempty : blocks ≠ [])
    (success : chunker.split tools blocks = .ok records) :
    ∃ identity, ∀ block ∈ blocks,
      (block.documentId, block.parseSnapshotId, block.sourceSha256) =
        identity := by
  by_contra mixed
  rw [split_mixed nonempty mixed] at success
  cases success

/-- The records of distinct positions have distinct identifiers. -/
private theorem distinct_of_describes {located : List (TokenWindow × ℕ)}
    {records : List ChunkRecord}
    (described : List.Forall₂
      (Describes tools chunker document parseSnapshot spans) located records)
    (positions : located.Pairwise fun early late => early.2 < late.2)
    (collisionFree : CollisionFree tools 24
      (located.map fun found => identity document found.2 found.1)) :
    (records.map (·.chunkId)).Nodup := by
  rw [List.Nodup, List.pairwise_map]
  refine pairwise_of_forall₂ ?_ described
    (List.Pairwise.and_mem.mp positions)
  rintro early late record record' ⟨member, member', before⟩ first second same
  obtain ⟨hash, hashed, chunkId⟩ := first.chunkId
  obtain ⟨hash', hashed', chunkId'⟩ := second.chunkId
  rw [chunkId, chunkId', String.append_right_inj] at same
  have texts := collisionFree _ (List.mem_map_of_mem member) _
    (List.mem_map_of_mem member') hash hash' hashed hashed' same
  have equal := identity_injective texts
  omega

section Covered

variable {overlap : ℤ} {records : List ChunkRecord}
  (cover : WindowCover text pieces overlap 0 windows)
  (described : List.Forall₂
    (Describes tools chunker document parseSnapshot spans)
    (windows.zipIdx 0) records)

include described

private theorem map_records {γ : Type} (ofWindow : TokenWindow → γ)
    (ofRecord : ChunkRecord → γ)
    (same : ∀ located record,
      Describes tools chunker document parseSnapshot spans located record →
        ofRecord record = ofWindow located.1) :
    records.map ofRecord = windows.map ofWindow := by
  have images := map_eq_of_forall₂ (ofWindow ∘ Prod.fst) ofRecord same
    described
  rw [images, ← List.map_map, List.zipIdx_map_fst]

include cover

/-- One record for each window covers the document. -/
private theorem covered_of_describes
    (collisionFree : CollisionFree tools 24
      ((windows.zipIdx 0).map fun found => identity document found.2 found.1)) :
    DocumentCovered spans pieces records := by
  have positions : (windows.zipIdx 0).Pairwise
      fun early late => early.2 < late.2 := by
    rw [← List.pairwise_map (f := Prod.snd), List.zipIdx_map_snd]
    exact List.pairwise_lt_range'
  exact {
    covered := by
      intro token inside
      obtain ⟨window, member, bounds⟩ :=
        cover.covers (Nat.zero_le token) inside
      obtain ⟨position, found⟩ := List.getElem?_of_mem member
      have located : (window, position) ∈ windows.zipIdx 0 :=
        List.mk_mem_zipIdx_iff_getElem?.mpr found
      obtain ⟨record, recorded, describes⟩ :=
        exists_right_of_forall₂ described located
      refine ⟨record, recorded, ?_⟩
      rw [describes.tokenStart, describes.tokenEnd]
      exact bounds
    bounded := by
      intro record member
      obtain ⟨⟨window, position⟩, located, describes⟩ :=
        exists_left_of_forall₂ described member
      rw [describes.tokenEnd]
      exact (cover.faithful window
        (List.fst_mem_of_mem_zipIdx located)).bounded
    ordinals := by
      have numbers := map_eq_of_forall₂ Prod.snd (fun record => record.ordinal)
        (fun _ _ describes => describes.ordinal) described
      rw [numbers, List.zipIdx_map_snd, ← described.length_eq,
        List.length_zipIdx, List.range_eq_range']
    sources := by
      intro record member
      obtain ⟨⟨window, position⟩, located, describes⟩ :=
        exists_left_of_forall₂ described member
      have faithful :=
        cover.faithful window (List.fst_mem_of_mem_zipIdx located)
      refine ⟨window.charStart, window.charEnd, ?_, ?_,
        describes.sourceBlockIds, describes.pageStart, describes.pageEnd⟩
      · rw [describes.tokenStart]
        exact faithful.startBoundary
      · rw [describes.tokenEnd]
        exact faithful.endBoundary
    distinct := distinct_of_describes described positions collisionFree }

private theorem checkRecords_of_describes {first : ChunkRecord}
    {rest : List ChunkRecord} (shape : records = first :: rest)
    (distinct : (records.map (·.chunkId)).Nodup) :
    checkRecords pieces.length first rest = .ok () := by
  have starts := map_records described TokenWindow.tokenStart
    (fun record => record.tokenStart)
    (fun _ _ describes => describes.tokenStart)
  have ends := map_records described TokenWindow.tokenEnd
    (fun record => record.tokenEnd) (fun _ _ describes => describes.tokenEnd)
  have chained : records.IsChain fun left right =>
      right.tokenStart ≤ left.tokenEnd ∧
        right.ordinal = left.ordinal + 1 := by
    refine isChain_of_forall₂ ?_ described (isChain_zipIdx cover.chained 0)
    rintro early late record record' ⟨precedes, consecutive⟩ first second
    rw [second.tokenStart, first.tokenEnd, second.ordinal, first.ordinal]
    exact ⟨precedes.noGap, consecutive⟩
  subst shape
  refine checkRecords_eq_ok_iff.mpr ⟨?_, ?_, chained, distinct⟩
  · have head := cover.starts
    rw [← List.head?_map, ← starts] at head
    simpa using head
  · rw [← List.getLast?_map, ends, List.getLast?_map]
    exact cover.ends

end Covered

private theorem sourceBlocks_ne_nil {charStart charEnd : ℕ} :
    sourceBlocks spans charStart charEnd ≠ [] ↔
      ∃ span ∈ spans, span.Meets charStart charEnd := by
  rw [sourceBlocks, Ne, List.map_eq_nil_iff, List.filter_eq_nil_iff]
  simp only [decide_eq_true_eq, not_forall, not_not, exists_prop]

private theorem kept_eq_zipIdx {ordinal : ℕ} :
    kept spans windows ordinal = windows.zipIdx ordinal ↔
      ∀ window ∈ windows, ∃ span ∈ spans,
        span.Meets window.charStart window.charEnd := by
  rw [kept, List.filter_eq_self]
  simp only [decide_eq_true_eq, sourceBlocks_ne_nil]
  constructor
  · intro all window member
    obtain ⟨position, found⟩ := List.getElem?_of_mem member
    refine all (window, ordinal + position) ?_
    exact List.mk_add_mem_zipIdx_iff_getElem?.mpr found
  · intro all located member
    exact all located.1 (List.fst_mem_of_mem_zipIdx member)

section Consecutive

variable {overlap : ℤ} {records : List ChunkRecord}
  (cover : WindowCover text pieces overlap 0 windows)
  (described : List.Forall₂
    (Describes tools chunker document parseSnapshot spans)
    (kept spans windows 0) records)

include cover described

/-- Records that reach the last token in consecutive positions leave no window
out. -/
private theorem kept_of_ordinals
    (ordinals : records.map (·.ordinal) = List.range records.length)
    {record : ChunkRecord} (recorded : record ∈ records)
    (reaches : pieces.length ≤ record.tokenEnd) :
    kept spans windows 0 = windows.zipIdx 0 := by
  have shorter : (kept spans windows 0).Sublist (windows.zipIdx 0) :=
    List.filter_sublist
  refine shorter.eq_of_length_le ?_
  obtain ⟨⟨window, position⟩, member, describes⟩ :=
    exists_left_of_forall₂ described recorded
  have located := shorter.subset member
  have found := List.mk_mem_zipIdx_iff_getElem?.mp located
  rw [describes.tokenEnd] at reaches
  -- The window that ends last is the last one.
  have last : windows.length ≤ position + 1 := by
    by_contra further
    obtain ⟨inside, here⟩ := List.getElem?_eq_some_iff.mp found
    have later := (List.pairwise_iff_getElem.mp cover.increasing position
      (position + 1) inside (by omega) (by omega)).2
    have bounded := (cover.faithful windows[position + 1]
      (List.getElem_mem _)).bounded
    rw [here] at later
    dsimp only at reaches
    omega
  have numbers := map_eq_of_forall₂ Prod.snd (fun record => record.ordinal)
    (fun _ _ describes => describes.ordinal) described
  have among : position ∈ List.range records.length := by
    rw [← ordinals, numbers]
    exact List.mem_map.mpr ⟨_, member, rfl⟩
  have small := List.mem_range.mp among
  rw [List.length_zipIdx, described.length_eq]
  omega

/-- The checks accept the records only when no window was left out. -/
private theorem kept_of_checked {first : ChunkRecord}
    {rest : List ChunkRecord} (shape : records = first :: rest)
    (checked : checkRecords pieces.length first rest = .ok ()) :
    kept spans windows 0 = windows.zipIdx 0 := by
  subst shape
  obtain ⟨starts, ends, chained, _⟩ := checkRecords_eq_ok_iff.mp checked
  -- The window that starts first is the first one.
  have zero : first.ordinal = 0 := by
    obtain ⟨⟨window, position⟩, member, describes⟩ :=
      exists_left_of_forall₂ described List.mem_cons_self
    have located := List.filter_sublist.subset member
    have found := List.mk_mem_zipIdx_iff_getElem?.mp located
    obtain ⟨inside, here⟩ := List.getElem?_eq_some_iff.mp found
    rw [describes.ordinal]
    by_contra positive
    have later := (List.pairwise_iff_getElem.mp cover.increasing 0 position
      (by omega) inside (Nat.pos_of_ne_zero positive)).1
    rw [here, ← describes.tokenStart, starts] at later
    omega
  obtain ⟨last, found, reaches⟩ := Option.map_eq_some_iff.mp ends
  refine kept_of_ordinals cover described ?_ (List.mem_of_getLast? found)
    reaches.ge
  have numbered : ∀ (record : ChunkRecord) (records : List ChunkRecord),
      ((record :: records).IsChain fun left right =>
        right.tokenStart ≤ left.tokenEnd ∧
          right.ordinal = left.ordinal + 1) →
      (record :: records).map (·.ordinal) =
        List.range' record.ordinal (records.length + 1) := by
    intro record records chained
    induction records generalizing record with
    | nil => rfl
    | cons next records induction =>
        obtain ⟨⟨_, consecutive⟩, chained⟩ :=
          List.isChain_cons_cons.mp chained
        rw [List.map_cons, induction next chained, consecutive]
        rfl
  rw [numbered first rest chained, zero, List.length_cons,
    List.range_eq_range']

end Consecutive

end Split

/-- The fields that `split` compares, put together. -/
theorem identity_eq {blocks : List DocumentBlock}
    {document parseSnapshot source : String}
    (oneDocument : ∀ block ∈ blocks, block.documentId = document ∧
      block.parseSnapshotId = parseSnapshot)
    (sources : ∀ block ∈ blocks, block.sourceSha256 = source) :
    ∀ block ∈ blocks,
      (block.documentId, block.parseSnapshotId, block.sourceSha256) =
        (document, parseSnapshot, source) := by
  intro block member
  rw [(oneDocument block member).1, (oneDocument block member).2,
    sources block member]

section Document

variable {tools : ChunkTools} {chunker : FixedChunker}
  {document parseSnapshot source : String} {blocks : List DocumentBlock}
  {tokens : List ℕ} {pieces : List (List UInt8)}
  (nonempty : blocks ≠ [])
  (same : ∀ block ∈ blocks,
    (block.documentId, block.parseSnapshotId, block.sourceSha256) =
      (document, parseSnapshot, source))
  (tokenization : Tokenization tools.encoding (sourceText blocks).1 tokens
    pieces)

/-- The windows of the joined text. -/
def windowsOf (tools : ChunkTools) (chunker : FixedChunker)
    (blocks : List DocumentBlock) : Except PyException (List TokenWindow) :=
  safeTokenWindows tools.encoding (sourceText blocks).1 chunker.size
    chunker.overlap

/-- Every window has a character of some block. -/
def EveryWindowMeets (tools : ChunkTools) (chunker : FixedChunker)
    (blocks : List DocumentBlock) : Prop :=
  ∀ windows, windowsOf tools chunker blocks = .ok windows →
    ∀ window ∈ windows, ∃ span ∈ (sourceText blocks).2,
      span.Meets window.charStart window.charEnd

include nonempty same tokenization

/-- A document without text has no chunks. -/
private theorem split_empty (empty : (sourceText blocks).1 = "") :
    windowsOf tools chunker blocks = .ok [] ∧
      chunker.split tools blocks = .ok [] := by
  have windows := tokenization.safeTokenWindows_empty chunker.valid.1
    chunker.valid.2 empty
  refine ⟨windows, ?_⟩
  rw [split_of_same nonempty same, windows]
  rfl

/-- What `split` makes of the windows of a document with text. -/
private theorem split_windows (filled : (sourceText blocks).1 ≠ "") :
    ∃ windows records,
      windowsOf tools chunker blocks = .ok windows ∧
      WindowCover (sourceText blocks).1 pieces chunker.overlap 0 windows ∧
      List.Forall₂ (Describes tools chunker document parseSnapshot
        (sourceText blocks).2) (kept (sourceText blocks).2 windows 0)
          records ∧
      chunker.split tools blocks =
        match records with
        | [] => .ok []
        | first :: rest => do
            checkRecords tokens.length first rest
            return records := by
  obtain ⟨windows, found, cover⟩ :=
    tokenization.windowCover chunker.valid.1 chunker.valid.2 filled
  obtain ⟨records, recorded, described⟩ :=
    chunks_describe tools chunker document parseSnapshot
      (fun span member => ((sourceText_spans blocks).2 span member).1)
      tokenization.nonempty windows cover.faithful 0
  refine ⟨windows, records, found, cover, described, ?_⟩
  rw [split_of_same nonempty same, found]
  dsimp only [bind, Except.bind]
  rw [recorded, tokenization.encode]
  rfl

theorem covered_of_everyWindowMeets
    (meets : EveryWindowMeets tools chunker blocks)
    (collisionFree : ∀ windows, windowsOf tools chunker blocks = .ok windows →
      CollisionFree tools 24 ((windows.zipIdx 0).map fun found =>
        identity document found.2 found.1)) :
    ∃ records, chunker.split tools blocks = .ok records ∧
      DocumentCovered (sourceText blocks).2 pieces records := by
  by_cases empty : (sourceText blocks).1 = ""
  · refine ⟨[], (split_empty nonempty same tokenization empty).2, ?_⟩
    have noPieces : pieces = [] := by
      rw [← List.length_eq_zero_iff, ← tokenization.length_eq,
        List.length_eq_zero_iff]
      exact tokenization.eq_nil_iff.mpr empty
    exact {
      covered := fun token inside => by simp [noPieces] at inside
      bounded := fun record member => by cases member
      ordinals := rfl
      sources := fun record member => by cases member
      distinct := .nil }
  · obtain ⟨windows, records, found, cover, described, result⟩ :=
      split_windows nonempty same tokenization empty
    rw [kept_eq_zipIdx.mpr (meets windows found)] at described
    have covered := covered_of_describes cover described
      (collisionFree windows found)
    refine ⟨records, ?_, covered⟩
    rw [result]
    cases shape : records with
    | nil => rfl
    | cons first rest =>
        have checked := checkRecords_of_describes cover described shape
          covered.distinct
        dsimp only
        rw [tokenization.length_eq, checked]
        rfl

/-- Chunks are returned only when every window has a source. -/
theorem everyWindowMeets_of_split {records : List ChunkRecord}
    (success : chunker.split tools blocks = .ok records) :
    EveryWindowMeets tools chunker blocks := by
  intro windows found
  by_cases empty : (sourceText blocks).1 = ""
  · rw [(split_empty nonempty same tokenization empty).1] at found
    cases found
    exact fun window member => by cases member
  · obtain ⟨windows', records', found', cover, described, result⟩ :=
      split_windows nonempty same tokenization empty
    rw [found'] at found
    cases found
    cases shape : records' with
    | nil =>
        -- The first window has a character of the first block.
        rw [shape] at described
        obtain ⟨span, member, start⟩ := sourceText_first blocks empty
        obtain ⟨window, head, first⟩ :=
          Option.map_eq_some_iff.mp cover.starts
        have faithful := cover.faithful window (List.mem_of_mem_head? head)
        have boundary := faithful.startBoundary
        rw [first] at boundary
        have zero := boundary.unique (charBoundary_zero pieces)
        have wide := faithful.nonempty tokenization.nonempty
        have long := ((sourceText_spans blocks).2 span member).1
        have meets : sourceBlocks (sourceText blocks).2 window.charStart
            window.charEnd ≠ [] :=
          sourceBlocks_ne_nil.mpr ⟨span, member, 0, by omega, by omega,
            by omega, by omega⟩
        have located : (window, 0) ∈ kept (sourceText blocks).2 windows 0 := by
          refine List.mem_filter.mpr ⟨?_, by simpa using meets⟩
          rw [List.mk_mem_zipIdx_iff_getElem?, ← List.head?_eq_getElem?]
          exact head
        rw [List.forall₂_nil_right_iff.mp described] at located
        cases located
    | cons first rest =>
        rw [result, shape] at success
        obtain ⟨_, checked, _⟩ := bind_eq_ok.mp success
        rw [tokenization.length_eq] at checked
        exact kept_eq_zipIdx.mp
          (kept_of_checked cover described shape checked)

/-- The only errors on the blocks of one source are internal ones. -/
theorem split_error {error : PyException}
    (failed : chunker.split tools blocks = .error error) :
    ∃ message, error = .runtimeError message := by
  by_cases empty : (sourceText blocks).1 = ""
  · rw [(split_empty nonempty same tokenization empty).2] at failed
    cases failed
  · obtain ⟨_, records, _, _, _, result⟩ :=
      split_windows nonempty same tokenization empty
    rw [result] at failed
    cases records with
    | nil => cases failed
    | cons first rest =>
        rcases bind_eq_error.mp failed with checked | ⟨_, _, returned⟩
        · exact checkRecords_error checked
        · cases returned

end Document

end FixedChunker

/-- Chunking one document keeps its promises exactly when the blocks also have
one source and no window lies between two blocks. -/
theorem fixed_chunking_covers_iff (tools : ChunkTools) (chunker : FixedChunker)
    (document parseSnapshot : String) (blocks : List DocumentBlock)
    (tokens : List ℕ) (pieces : List (List UInt8)) (nonempty : blocks ≠ [])
    (oneDocument : ∀ block ∈ blocks, block.documentId = document ∧
      block.parseSnapshotId = parseSnapshot)
    (tokenization : Tokenization tools.encoding (sourceText blocks).1 tokens
      pieces)
    (collisionFree : ∀ windows,
      chunker.windowsOf tools blocks = .ok windows →
        FixedChunker.CollisionFree tools 24 ((windows.zipIdx 0).map
          fun found => FixedChunker.identity document found.2 found.1)) :
    (∃ records, chunker.split tools blocks = .ok records ∧
      FixedChunker.DocumentCovered (sourceText blocks).2 pieces records) ↔
    (∃ source, ∀ block ∈ blocks, block.sourceSha256 = source) ∧
      chunker.EveryWindowMeets tools blocks := by
  constructor
  · rintro ⟨records, success, _⟩
    obtain ⟨⟨_, _, source⟩, same⟩ :=
      FixedChunker.same_of_split nonempty success
    have sources : ∀ block ∈ blocks, block.sourceSha256 = source :=
      fun block member => congrArg (·.2.2) (same block member)
    exact ⟨⟨source, sources⟩,
      FixedChunker.everyWindowMeets_of_split nonempty
        (FixedChunker.identity_eq oneDocument sources) tokenization success⟩
  · rintro ⟨⟨source, sources⟩, meets⟩
    exact FixedChunker.covered_of_everyWindowMeets nonempty
      (FixedChunker.identity_eq oneDocument sources) tokenization meets
      collisionFree

/-- `a`, a blank line and `b`, a token each. -/
def letterEncoding : Encoding where
  encode := fun _ => .ok [0, 1, 2]
  decodeSingleTokenBytes := fun token =>
    .ok (if token = 0 then [0x61]
      else if token = 1 then [0x0A, 0x0A]
      else [0x62])

def letterTools : ChunkTools where
  encoding := letterEncoding
  floats := sampleFloats
  sha256Hex := fun bytes =>
    .ofList (bytes.map fun byte => Char.ofNat byte.toNat)
  tokenizerVersion := "0.9.0"

def letterChunker (size : ℤ) (positive : 0 < size) : FixedChunker where
  size := size
  overlap := 0
  strategy := "fixed-" ++ toString size ++ "-0"
  strategyHash := "strategy"
  valid := ⟨le_rfl, positive⟩

def letterBlocks : List DocumentBlock :=
  ["a", "b"].map fun letter =>
    { blockId := "block-" ++ letter
      documentId := "document"
      parseSnapshotId := "snapshot"
      sourceSha256 := "source"
      page := 1
      sectionPath := []
      content := letter
      isBoilerplate := false
      pagePositive := by decide
      identified := by simp }

theorem letterTokenization : Tokenization letterTools.encoding
    (sourceText letterBlocks).1 [0, 1, 2] [[0x61], [0x0A, 0x0A], [0x62]] where
  encode := rfl
  decode := rfl
  nonempty := by decide
  encoded := by decide +kernel

theorem letters_in_one_window_covered :
    (∃ records, (letterChunker 3 (by decide)).split letterTools letterBlocks =
        .ok records ∧
      FixedChunker.DocumentCovered (sourceText letterBlocks).2
        [[0x61], [0x0A, 0x0A], [0x62]] records) ↔
    (∃ source, ∀ block ∈ letterBlocks, block.sourceSha256 = source) ∧
      (letterChunker 3 (by decide)).EveryWindowMeets letterTools
        letterBlocks := by
  refine fixed_chunking_covers_iff letterTools (letterChunker 3 (by decide))
    "document" "snapshot" letterBlocks [0, 1, 2]
    [[0x61], [0x0A, 0x0A], [0x62]] (by simp [letterBlocks])
    (by simp [letterBlocks]) letterTokenization ?_
  intro windows found
  have single : (letterChunker 3 (by decide)).windowsOf letterTools
      letterBlocks = .ok [⟨"a\n\nb", 0, 3, 0, 4⟩] := by
    decide +kernel
  rw [single] at found
  cases found
  intro left member right member' _ _ _ _ _
  rw [List.mem_singleton.mp member, List.mem_singleton.mp member']

/-- The window of the blank line has no block: the chunks of its neighbours are
not consecutive, and the document is rejected by an internal error. -/
theorem blank_line_window_fails :
    letterBlocks ≠ [] ∧
      (∀ block ∈ letterBlocks,
        (block.documentId, block.parseSnapshotId, block.sourceSha256) =
          ("document", "snapshot", "source")) ∧
      Tokenization letterTools.encoding (sourceText letterBlocks).1 [0, 1, 2]
        [[0x61], [0x0A, 0x0A], [0x62]] ∧
      (letterChunker 1 (by decide)).split letterTools letterBlocks =
        .error (.runtimeError
          "chunk windows contain a gap or non-monotonic ordinal") := by
  refine ⟨by simp [letterBlocks], by simp [letterBlocks], letterTokenization,
    ?_⟩
  have failed : (match (letterChunker 1 (by decide)).split letterTools
      letterBlocks with
    | .error error => some error
    | .ok _ => none) = some (.runtimeError
      "chunk windows contain a gap or non-monotonic ordinal") := by
    decide +kernel
  cases result : (letterChunker 1 (by decide)).split letterTools
      letterBlocks with
  | error error =>
      rw [result] at failed
      exact congrArg Except.error (Option.some_inj.mp failed)
  | ok records =>
      rw [result] at failed
      cases failed

end RagBench
