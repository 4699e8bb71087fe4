import RagBench.Chunking.Records

/-!
# Fixed token windows with their sources

`FixedChunker.split` joins the usable blocks of one document, cuts the text
into token windows and finds the blocks of each window by character offsets.
-/

namespace RagBench

/-- Where a block stands in the joined text. -/
structure Span where
  start : ℕ
  stop : ℕ
  block : DocumentBlock

/-- The loop of `_source_text`: `parts` says whether a part was appended. -/
def sourceTextFrom (parts : Bool) (position : ℕ) :
    List DocumentBlock → List String × List Span
  | [] => ([], [])
  | block :: blocks =>
      if block.isBoilerplate ∨ block.content = "" then
        sourceTextFrom parts position blocks
      else
        let separator := if parts then ["\n\n"] else []
        let start := if parts then position + 2 else position
        let stop := start + block.content.toList.length
        let (texts, spans) := sourceTextFrom true stop blocks
        (separator ++ block.content :: texts,
          { start := start, stop := stop, block := block } :: spans)

/-- `_source_text`. -/
def sourceText (blocks : List DocumentBlock) : String × List Span :=
  let (parts, spans) := sourceTextFrom false 0 blocks
  (String.join parts, spans)

/-- `_overlapping`. -/
def overlapping (spans : List Span) (start stop : ℕ) : List DocumentBlock :=
  (spans.filter fun span => start < span.stop ∧ span.start < stop).map
    Span.block

/-- What the checks of a size and an overlap leave. -/
theorem sizes_valid {size overlap : ℤ}
    (valid : ¬(size ≤ 0 ∨ overlap < 0 ∨ size ≤ overlap)) :
    0 ≤ overlap ∧ overlap < size := by
  omega

structure FixedChunker where
  size : ℤ
  overlap : ℤ
  strategy : String
  strategyHash : String
  valid : 0 ≤ overlap ∧ overlap < size

namespace FixedChunker

/-- `FixedChunker(size, overlap)`. -/
def make (tools : ChunkTools) (size overlap : ℤ) :
    Except PyException FixedChunker :=
  if valid : size ≤ 0 ∨ overlap < 0 ∨ size ≤ overlap then
    .error (.valueError
      "size must be positive and greater than non-negative overlap")
  else do
    let hash ← tools.canonicalJsonHash (.dict
      [("strategy", .str "fixed"),
        ("size", .int size),
        ("overlap", .int overlap),
        ("tokenizer", tokenizerSnapshot tools)])
    return {
      size := size
      overlap := overlap
      strategy := "fixed-" ++ toString size ++ "-" ++ toString overlap
      strategyHash := slice hash 0 16
      valid := sizes_valid valid }

/-- Valid sizes are accepted. -/
theorem make_ok (tools : ChunkTools) {size overlap : ℤ}
    (valid : 0 ≤ overlap ∧ overlap < size) :
    ∃ chunker, make tools size overlap = .ok chunker ∧
      chunker.size = size ∧ chunker.overlap = overlap := by
  unfold make
  rw [dif_neg (by omega)]
  exact ⟨_, rfl, rfl, rfl⟩

/-- What the identifier of a chunk is the hash of. -/
def identity (document : String) (ordinal : ℕ) (window : TokenWindow) : Json :=
  .object
    [("document", .str document),
      ("ordinal", .int ordinal),
      ("token_start", .int window.tokenStart),
      ("token_end", .int window.tokenEnd),
      ("content", .str window.content)]

variable (tools : ChunkTools) (chunker : FixedChunker)
  (document parseSnapshot : String)

/-- The body of the loop over the windows, for a window with sources. -/
def chunk (ordinal : ℕ) (window : TokenWindow) (first : DocumentBlock)
    (rest : List DocumentBlock) : Except PyException ChunkRecord := do
  let sources := first :: rest
  let pages := rest.map DocumentBlock.page
  let sectionPath :=
    match (sources.map DocumentBlock.sectionPath).dedup with
    | [path] => path
    | _ => []
  let hash ← tools.canonicalJsonHash
    (.ofJson (identity document ordinal window))
  let fields : ChunkFields :=
    { chunkId :=
        parseSnapshot ++ ":" ++ chunker.strategyHash ++ ":" ++ slice hash 0 24
      documentId := document
      parseSnapshotId := parseSnapshot
      strategy := chunker.strategy
      strategyHash := chunker.strategyHash
      ordinal := ordinal
      pageStart := pages.foldl min first.page
      pageEnd := pages.foldl max first.page
      sectionPath := sectionPath
      content := window.content
      tokenCount := window.tokenEnd - window.tokenStart
      tokenStart := window.tokenStart
      tokenEnd := window.tokenEnd
      sourceBlockIds := sources.map DocumentBlock.blockId }
  fields.validate

/-- The loop over the windows, from `ordinal` on. -/
def chunks (spans : List Span) (ordinal : ℕ) :
    List TokenWindow → Except PyException (List ChunkRecord)
  | [] => .ok []
  | window :: windows =>
      match overlapping spans window.charStart window.charEnd with
      | [] => chunks spans (ordinal + 1) windows
      | first :: rest => do
          let record ←
            chunk tools chunker document parseSnapshot ordinal window first rest
          let records ← chunks spans (ordinal + 1) windows
          return record :: records

/-- `any(... for left, right in zip(records, records[1:]))`. -/
def gap (records : List ChunkRecord) : Bool :=
  (records.zip records.tail).any fun (left, right) =>
    left.tokenEnd < right.tokenStart ∨ right.ordinal ≠ left.ordinal + 1

/-- The checks on a non-empty list of records. -/
def checkRecords (totalTokens : ℕ) (first : ChunkRecord)
    (rest : List ChunkRecord) : Except PyException Unit := do
  let records := first :: rest
  let last := rest.getLastD first
  if first.tokenStart ≠ 0 ∨ last.tokenEnd ≠ totalTokens then
    throw (.runtimeError "chunk windows do not cover the normalized document")
  if gap records then
    throw (.runtimeError
      "chunk windows contain a gap or non-monotonic ordinal")
  if ¬(records.map (·.chunkId)).Nodup then
    throw (.runtimeError "chunk identifiers are not unique")

def split (blocks : List DocumentBlock) :
    Except PyException (List ChunkRecord) := do
  if blocks.isEmpty then return []
  let identities := (blocks.map fun item =>
    (item.documentId, item.parseSnapshotId, item.sourceSha256)).dedup
  match identities with
  | [(document, parseSnapshot, _)] =>
      let (text, spans) := sourceText blocks
      let windows ←
        safeTokenWindows tools.encoding text chunker.size chunker.overlap
      let records ← chunks tools chunker document parseSnapshot spans 0 windows
      match records with
      | [] => return []
      | first :: rest =>
          let tokens ← tools.encoding.encode text
          checkRecords tokens.length first rest
          return records
  | _ => throw (.valueError
      "blocks must belong to one document and parse snapshot")

end FixedChunker

/-! ## The joined text -/

/-- The blocks that reach the text. -/
def usable (blocks : List DocumentBlock) : List DocumentBlock :=
  blocks.filter fun block => ¬(block.isBoilerplate ∨ block.content = "")

private theorem usable_cons_skip {block : DocumentBlock}
    (blocks : List DocumentBlock)
    (skipped : block.isBoilerplate ∨ block.content = "") :
    usable (block :: blocks) = usable blocks :=
  List.filter_cons_of_neg
    (by simpa only [decide_eq_true_eq, not_not] using skipped)

private theorem usable_cons {block : DocumentBlock}
    (blocks : List DocumentBlock)
    (kept : ¬(block.isBoilerplate ∨ block.content = "")) :
    usable (block :: blocks) = block :: usable blocks :=
  List.filter_cons_of_pos (by simpa only [decide_eq_true_eq] using kept)

private theorem join_sourceTextFrom (blocks : List DocumentBlock)
    (parts : Bool) (position : ℕ) :
    String.join (sourceTextFrom parts position blocks).1 =
      (if parts ∧ usable blocks ≠ [] then "\n\n" else "") ++
        "\n\n".intercalate ((usable blocks).map DocumentBlock.content) := by
  induction blocks generalizing parts position with
  | nil => simp [sourceTextFrom, usable]
  | cons block blocks induction =>
      rw [sourceTextFrom]
      by_cases skipped : block.isBoilerplate ∨ block.content = ""
      · rw [if_pos skipped, usable_cons_skip blocks skipped]
        exact induction parts position
      · rw [if_neg skipped, usable_cons blocks skipped]
        dsimp only
        rw [String.join_append, String.join_cons, induction, List.map_cons]
        by_cases last : usable blocks = []
        · cases parts <;> simp [last]
        · rw [String.intercalate_cons_of_ne_nil (by simpa using last)]
          cases parts <;> simp [last, String.append_assoc]

theorem sourceText_text (blocks : List DocumentBlock) :
    (sourceText blocks).1 =
      "\n\n".intercalate ((usable blocks).map DocumentBlock.content) := by
  have joined := join_sourceTextFrom blocks false 0
  simpa [sourceText] using joined

private theorem slice_middle (before middle after : String) :
    slice (before ++ middle ++ after) before.toList.length
      (before ++ middle).toList.length = middle := by
  have whole : (before ++ middle ++ after).toList =
      (before ++ middle).toList ++ after.toList := String.toList_append
  rw [slice, whole, List.take_left, String.toList_append, List.drop_left,
    String.ofList_toList]

/-- Every span lies where its block stands in the text. -/
private theorem sourceTextFrom_spans (blocks : List DocumentBlock)
    (parts : Bool) (before : String) :
    (sourceTextFrom parts before.toList.length blocks).2.map Span.block =
        usable blocks ∧
      ∀ span ∈ (sourceTextFrom parts before.toList.length blocks).2,
        span.start < span.stop ∧
        slice (before ++
            String.join (sourceTextFrom parts before.toList.length blocks).1)
          span.start span.stop = span.block.content := by
  induction blocks generalizing parts before with
  | nil => exact ⟨rfl, fun _ member => by cases member⟩
  | cons block blocks induction =>
      rw [sourceTextFrom]
      by_cases skipped : block.isBoilerplate ∨ block.content = ""
      · rw [if_pos skipped, usable_cons_skip blocks skipped]
        exact induction parts before
      · rw [if_neg skipped, usable_cons blocks skipped]
        let separator := if parts then "\n\n" else ""
        let through := before ++ separator ++ block.content
        have start : (if parts then before.toList.length + 2
            else before.toList.length) =
              (before ++ separator).toList.length := by
          cases parts <;> simp [separator]
        have stop : (before ++ separator).toList.length +
            block.content.toList.length = through.toList.length := by
          rw [← List.length_append, ← String.toList_append]
        dsimp only
        rw [start, stop]
        obtain ⟨order, located⟩ := induction true through
        have text : before ++ String.join
            ((if parts then ["\n\n"] else []) ++ block.content ::
              (sourceTextFrom true through.toList.length blocks).1) =
            through ++ String.join
              (sourceTextFrom true through.toList.length blocks).1 := by
          cases parts <;> simp [through, separator, String.append_assoc]
        rw [text]
        refine ⟨by rw [List.map_cons, order],
          List.forall_mem_cons.mpr ⟨?_, located⟩⟩
        have nonempty : block.content.toList ≠ [] := by
          intro empty
          exact skipped (.inr (String.toList_inj.mp empty))
        constructor
        · have positive := List.length_pos_iff.mpr nonempty
          dsimp only
          omega
        · exact slice_middle _ _ _

theorem sourceText_spans (blocks : List DocumentBlock) :
    (sourceText blocks).2.map Span.block = usable blocks ∧
      ∀ span ∈ (sourceText blocks).2, span.start < span.stop ∧
        slice (sourceText blocks).1 span.start span.stop =
          span.block.content := by
  have located := sourceTextFrom_spans blocks false ""
  simpa [sourceText] using located

/-- A text begins with its first block. -/
theorem sourceText_first (blocks : List DocumentBlock)
    (filled : (sourceText blocks).1 ≠ "") :
    ∃ span ∈ (sourceText blocks).2, span.start = 0 := by
  unfold sourceText at filled ⊢
  dsimp only at filled ⊢
  induction blocks with
  | nil => exact absurd rfl filled
  | cons block blocks induction =>
      rw [sourceTextFrom] at filled ⊢
      by_cases skipped : block.isBoilerplate ∨ block.content = ""
      · rw [if_pos skipped] at filled ⊢
        exact induction filled
      · rw [if_neg skipped]
        exact ⟨_, List.mem_cons_self, rfl⟩

end RagBench
