import RagBench.Chunking.Tokenizer
import RagBench.Core.Hashing

/-!
# Blocks and chunks

A block or a chunk that its `__post_init__` rejects cannot be built.
-/

namespace RagBench

/-- The fields that chunking reads. -/
structure DocumentBlock where
  blockId : String
  documentId : String
  parseSnapshotId : String
  sourceSha256 : String
  page : ℕ
  sectionPath : List String
  content : String
  isBoilerplate : Bool
  pagePositive : 0 < page
  identified : blockId ≠ "" ∧ documentId ≠ "" ∧ parseSnapshotId ≠ ""

structure ChunkFields where
  chunkId : String
  documentId : String
  parseSnapshotId : String
  strategy : String
  strategyHash : String
  ordinal : ℕ
  pageStart : ℕ
  pageEnd : ℕ
  sectionPath : List String
  content : String
  tokenCount : ℤ
  tokenStart : ℕ
  tokenEnd : ℕ
  sourceBlockIds : List String

structure ChunkRecord extends ChunkFields where
  pages : 0 < pageStart ∧ pageStart ≤ pageEnd
  tokens : 0 ≤ tokenCount ∧ tokenStart ≤ tokenEnd

/-- `ChunkRecord(...)`, with the checks of `__post_init__`. -/
def ChunkFields.validate (fields : ChunkFields) :
    Except PyException ChunkRecord :=
  if pages : 0 < fields.pageStart ∧ fields.pageStart ≤ fields.pageEnd then
    if tokens : 0 ≤ fields.tokenCount ∧
        fields.tokenStart ≤ fields.tokenEnd then
      .ok { fields with pages := pages, tokens := tokens }
    else .error (.valueError "invalid token range")
  else .error (.valueError "invalid chunk ordinal or page range")

theorem ChunkFields.validate_ok {fields : ChunkFields}
    (pages : 0 < fields.pageStart ∧ fields.pageStart ≤ fields.pageEnd)
    (tokens : 0 ≤ fields.tokenCount ∧ fields.tokenStart ≤ fields.tokenEnd) :
    ∃ record, fields.validate = .ok record ∧ record.toChunkFields = fields := by
  refine ⟨{ fields with pages := pages, tokens := tokens }, ?_, rfl⟩
  rw [validate, dif_pos pages, dif_pos tokens]

/-- What the chunkers use of the libraries. -/
structure ChunkTools where
  encoding : Encoding
  floats : FloatText
  sha256Hex : List UInt8 → String
  /-- `version("tiktoken")`. -/
  tokenizerVersion : String

def ChunkTools.canonicalJsonHash (tools : ChunkTools) (value : PyValue) :
    Except PyException String :=
  value.canonicalJsonHash tools.floats tools.sha256Hex

def tokenizerSnapshot (tools : ChunkTools) : PyValue :=
  .dict
    [("library", .str "tiktoken"),
      ("version", .str tools.tokenizerVersion),
      ("encoding", .str "cl100k_base"),
      ("asset_sha256", .str
        "223921b76ee99bde995b7ff738513eef100fb51d18c93597a113bcffe865b2a7")]

end RagBench
