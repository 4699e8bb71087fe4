import Mathlib.Data.Finset.Sort
import Mathlib.Data.List.Lex
import Mathlib.Data.Prod.Lex
import RagBench.Core.MarkupEscape
import RagBench.Providers.Messages
import RagBench.Retrieval.Base

/-!
# The context of an answer

Retrieved chunks are ordered, freed of duplicates and serialized, each between
two sentinels.  The context is the longest prefix that fits the token budget.
-/

namespace RagBench

def documentOpen : String := "<UNTRUSTED_DOCUMENT>"

def documentClose : String := "</UNTRUSTED_DOCUMENT>"

def documentSeparator : String := "\n"

/-! ## Chunks -/

structure RetrievedChunkFields where
  hit : SearchHit
  documentId : String
  documentTitle : String
  pageStart : ℤ
  pageEnd : ℤ
  sectionPath : List String
  content : String

namespace RetrievedChunkFields

variable (fields : RetrievedChunkFields)

def hasIdentity : Bool :=
  [fields.hit.chunkId, fields.documentId, fields.documentTitle].all
    fun value => strip value ≠ ""

def isRanked : Bool :=
  0 < fields.hit.rank ∧ fields.hit.score.isFinite

def hasPages : Bool :=
  0 < fields.pageStart ∧ fields.pageStart ≤ fields.pageEnd

def hasSections : Bool :=
  fields.sectionPath.all fun part => strip part ≠ ""

def isValid : Bool :=
  fields.hasIdentity ∧ fields.isRanked ∧ fields.hasPages ∧
    strip fields.content ≠ "" ∧ fields.hasSections

end RetrievedChunkFields

/-- A validated `RetrievedChunk`. -/
structure RetrievedChunk extends RetrievedChunkFields where
  valid : toRetrievedChunkFields.isValid = true

/-- `RetrievedChunk(**fields)`. -/
def RetrievedChunkFields.validate (fields : RetrievedChunkFields) :
    Except PyException RetrievedChunk :=
  if valid : fields.isValid = true then
    .ok { toRetrievedChunkFields := fields, valid }
  else if ¬ fields.hasIdentity then
    .error (.valueError
      "retrieved chunk provenance identity cannot be blank")
  else if ¬ fields.isRanked then
    .error (.valueError
      "retrieved chunk provenance rank and score must be valid")
  else if ¬ fields.hasPages then
    .error (.valueError "retrieved chunk provenance page range is invalid")
  else if strip fields.content = "" then
    .error (.valueError "retrieved chunk provenance content cannot be blank")
  else
    .error (.valueError "retrieved chunk provenance section cannot be blank")

structure ContextItem where
  citationId : String
  chunkId : String
  documentId : String
  documentTitle : String
  pageStart : ℤ
  pageEnd : ℤ
  sectionPath : List String
  content : String
  retrievalRank : ℤ
  retrievalScore : PyFloat
  retriever : String
  serialized : String
  tokenCount : ℕ

structure ContextBundle where
  items : List ContextItem
  text : String
  tokenCount : ℕ
  tokenBudget : ℤ
  duplicateChunkIds : List String
  truncatedChunkIds : List String

/-! ## Serialization -/

section Serialize

variable (floats : FloatText)

/-- What `_serialize` dumps. -/
def documentPayload (row : RetrievedChunk) (citationId : String) : Json :=
  .object
    [("citation_id", .str citationId),
      ("chunk_id", .str row.hit.chunkId),
      ("document_id", .str row.documentId),
      ("document_title", .str row.documentTitle),
      ("page_range", .object
        [("start", .int row.pageStart), ("end", .int row.pageEnd)]),
      ("section", .array (row.sectionPath.map .str)),
      ("content_is_untrusted_data", .bool true),
      ("content", .str row.content)]

def encodedPayload (row : RetrievedChunk) (citationId : String) : String :=
  String.ofList (safeJson (Json.text floats (documentPayload row citationId)))

/-- `_serialize`. -/
def serializeChunk (row : RetrievedChunk) (citationId : String) : String :=
  documentOpen ++ "\n" ++ encodedPayload floats row citationId ++ "\n" ++
    documentClose

end Serialize

/-! ## Building a context -/

namespace ContextBuilder

/-- A negated score; a chunk has a finite one. -/
def negatedScore (row : RetrievedChunk) : ℚ :=
  match row.hit.score with
  | .finite value => -value
  | _ => 0

/-- The order of the rows. -/
abbrev RowKey :=
  ℤ ×ₗ ℚ ×ₗ String ×ₗ String ×ₗ ℤ ×ₗ ℤ ×ₗ List String ×ₗ String

def rowKey (row : RetrievedChunk) : RowKey :=
  toLex (row.hit.rank, toLex (negatedScore row, toLex (row.hit.chunkId,
    toLex (row.documentId, toLex (row.pageStart, toLex (row.pageEnd,
      toLex (row.sectionPath, row.content)))))))

/-- `_source_identity`. -/
def sourceIdentity (row : RetrievedChunk) :
    String × String × ℤ × ℤ × List String × String :=
  (row.documentId, row.documentTitle, row.pageStart, row.pageEnd,
    row.sectionPath, row.content)

/-- The first rows of the chunks so far, and the chunks with further ones. -/
structure Distinct where
  unique : List RetrievedChunk
  duplicates : Finset String

/-- `seen` has the rows of `unique` by their chunks. -/
def Distinct.seen (distinct : Distinct) (chunkId : String) :
    Option RetrievedChunk :=
  distinct.unique.find? fun row => row.hit.chunkId = chunkId

def Distinct.add (distinct : Distinct) (row : RetrievedChunk) :
    Except PyException Distinct :=
  match distinct.seen row.hit.chunkId with
  | some prior => do
      raiseIf (sourceIdentity prior ≠ sourceIdentity row)
        (.valueError "conflicting duplicate chunk provenance")
      return { distinct with
        duplicates := insert row.hit.chunkId distinct.duplicates }
  | none => .ok { distinct with unique := distinct.unique ++ [row] }

def distinctRows (ordered : List RetrievedChunk) :
    Except PyException Distinct :=
  ordered.foldlM Distinct.add { unique := [], duplicates := ∅ }

section Build

variable (floats : FloatText) (platform : Platform)

def citationIdOf (index : ℕ) : String :=
  "C" ++ toString index

def contextItem (row : RetrievedChunk) (citationId serialized : String)
    (tokenCount : ℕ) : ContextItem :=
  { citationId := citationId
    chunkId := row.hit.chunkId
    documentId := row.documentId
    documentTitle := row.documentTitle
    pageStart := row.pageStart
    pageEnd := row.pageEnd
    sectionPath := row.sectionPath
    content := row.content
    retrievalRank := row.hit.rank
    retrievalScore := row.hit.score
    retriever := row.hit.retriever
    serialized := serialized
    tokenCount := tokenCount }

/-- The loop over the unique rows from `index` on: the further items, and the
chunks that are truncated. -/
def pack (tokenBudget : ℤ) (index : ℕ) (serialized : List String) :
    List RetrievedChunk →
      Except PyException (List ContextItem × List String)
  | [] => .ok ([], [])
  | row :: rest => do
      let citationId := citationIdOf index
      let itemText := serializeChunk floats row citationId
      let candidateText :=
        documentSeparator.intercalate (serialized ++ [itemText])
      let candidateTokens ← platform.tokenCount candidateText
      if tokenBudget < candidateTokens then
        return ([], (row :: rest).map fun row => row.hit.chunkId)
      else
        let tokenCount ← platform.tokenCount itemText
        let (items, truncated) ←
          pack tokenBudget (index + 1) (serialized ++ [itemText]) rest
        return (contextItem row citationId itemText tokenCount :: items,
          truncated)

/-- `sorted(ids)` of a set. -/
def sortedIds (ids : Finset String) : List String :=
  ids.sort

def build (hits : List RetrievedChunk) (tokenBudget : ℤ) :
    Except PyException ContextBundle := do
  raiseIf (tokenBudget < 0)
    (.valueError "token_budget must be a nonnegative integer")
  let ordered := sortBy rowKey hits
  let distinct ← distinctRows ordered
  let (items, truncated) ←
    pack floats platform tokenBudget 1 [] distinct.unique
  let text := documentSeparator.intercalate
    (items.map fun item => item.serialized)
  let tokenCount ← platform.tokenCount text
  return {
    items := items
    text := text
    tokenCount := tokenCount
    tokenBudget := tokenBudget
    duplicateChunkIds := sortedIds distinct.duplicates
    truncatedChunkIds := truncated }

end Build

end ContextBuilder

end RagBench
