import RagBench.Core.TextLines
import RagBench.Embeddings.Repository

/-!
# Build plans

A chunk dataset and the arguments of the build determine the plan, but for
one field: the snapshot is dated by the modification time of the dataset.
-/

namespace RagBench

/-- `class BuildGateError(RuntimeError)`. -/
def buildGateError (message : String) : PyException :=
  ⟨.derived "BuildGateError" .runtimeError, message⟩

/-- What `build_plan` finds at the path. -/
structure DatasetFile where
  path : String
  isFile : Bool
  isSymlink : Bool
  payload : Bytes
  /-- `st_mtime`, in seconds. -/
  modified : ℚ

structure BuildArguments where
  corpusSnapshotId : String
  modelId : String
  queryModelId : String
  dimension : ℤ

structure EmbeddingBuildPlan where
  planHash : String
  snapshot : EmbeddingSnapshot
  chunks : List ChunkEmbeddingInput
  totalChunks : ℕ
  totalTokens : ℤ
  datasetSha256 : String

section Plan

variable (libraries : EmbeddingLibraries)

/-- The row of a line. -/
def datasetRow (loads : List Char → Option Json) (line : List Char) :
    Except PyException JsonObject :=
  match loads line with
  | none => .error (.valueError "invalid JSON")
  | some (.object entries) => .ok entries
  | some _ => .error (buildGateError "every chunk row must be a JSON object")

/-- The rows of the dataset; empty lines are skipped. -/
def datasetRows (loads : List Char → Option Json) (payload : Bytes) :
    Except PyException (List JsonObject) :=
  match Utf8.decode payload with
  | none => .error (.unicodeDecodeError "invalid UTF-8")
  | some text =>
      ((splitTextLines text).filter fun line => line ≠ []).mapM
        (datasetRow loads)

/-- `str(item.get(key) or "")`. -/
def textOf (item : JsonObject) (key : String) : String :=
  match Json.get? item key with
  | some value => if value.truthy then libraries.str value else ""
  | none => ""

/-- The only value of a key, which is not empty. -/
def onlyText (rows : List JsonObject) (key message : String) :
    Except PyException String :=
  match (rows.map fun item => textOf libraries item key).dedup with
  | [value] =>
      if value = "" then .error (buildGateError message) else .ok value
  | _ => .error (buildGateError message)

/-- `item[key]`. -/
def requireKey (item : JsonObject) (key : String) : Except PyException Json :=
  match Json.get? item key with
  | some value => .ok value
  | none => .error (.keyError key)

/-- The fields that `source_metadata` keeps. -/
def sourceMetadataKeys : List String :=
  ["page_start", "page_end", "section_path", "source_block_ids",
    "strategy_hash", "token_start", "token_end"]

/-- The chunk of a row. -/
def chunkOfRow (item : JsonObject) :
    Except PyException ChunkEmbeddingInput := do
  let chunkId ← requireKey item "chunk_id"
  let documentId ← requireKey item "document_id"
  let content ← requireKey item "content"
  let tokenCount ← requireKey item "token_count"
  let tokens ← tokenCount.toInt libraries.parseInt
  chunkEmbeddingInput libraries.toPlatform (libraries.str chunkId)
    (libraries.str documentId) (libraries.str content) tokens
    (frozenSourceMetadata libraries.toPlatform
      (sourceMetadataKeys.filterMap fun key =>
        (Json.get? item key).map fun value => (key, value)))

/-- `except (KeyError, TypeError, ValueError)` around the chunks. -/
def gateChunkErrors {α : Type} : Except PyException α → Except PyException α
  | .ok value => .ok value
  | .error error =>
      if error.isInstance .keyError ∨ error.isInstance .typeError ∨
          error.isInstance .valueError then
        .error (buildGateError "chunk rows have invalid embedding fields")
      else .error error

/-- What the dataset and the arguments determine. -/
structure PlannedIdentity where
  parseSnapshotId : String
  chunkStrategy : String
  indexPlan : EmbeddingIndexPlan
  chunks : List ChunkEmbeddingInput
  datasetSha256 : String
  manifestHash : String

/-- `identity`. -/
def PlannedIdentity.identity (planned : PlannedIdentity)
    (arguments : BuildArguments) : Json :=
  .object
    [("schema", .str "embedding-plan-v1"),
      ("dataset_sha256", .str planned.datasetSha256),
      ("corpus_snapshot_id", .str arguments.corpusSnapshotId),
      ("parse_snapshot_id", .str planned.parseSnapshotId),
      ("chunk_strategy", .str planned.chunkStrategy),
      ("model_id", .str arguments.modelId),
      ("query_model_id", .str arguments.queryModelId),
      ("dimension", .int arguments.dimension),
      ("normalization", .str "l2"),
      ("artifact_manifest_hash", .str planned.manifestHash),
      ("index_strategy", .str planned.indexPlan.strategy),
      ("candidate_factor", .int planned.indexPlan.candidateFactor)]

/-- `build_plan` up to `identity`. -/
def planIdentity (payload : Bytes) (dimension : ℤ) :
    Except PyException PlannedIdentity := do
  let rows ← datasetRows libraries.loads payload
  raiseIf (rows = []) (buildGateError "chunk dataset cannot be empty")
  let parseSnapshotId ← onlyText libraries rows "parse_snapshot_id"
    "embedding input must use exactly one parse snapshot"
  let chunkStrategy ← onlyText libraries rows "strategy"
    "embedding input must use exactly one chunk strategy"
  let indexPlan ← embeddingIndexPlan dimension
  raiseIf (∃ item ∈ rows,
      ¬ ((Json.get? item "document_id").any Json.truthy))
    (buildGateError "every chunk row requires document_id")
  let chunks ← gateChunkErrors (rows.mapM (chunkOfRow libraries))
  raiseIf (¬ (chunks.map ChunkEmbeddingInput.chunkId).Nodup)
    (buildGateError "chunk IDs must be unique")
  let manifestHash ← chunkManifestHash libraries.toPlatform chunks
  .ok
    { parseSnapshotId := parseSnapshotId
      chunkStrategy := chunkStrategy
      indexPlan := indexPlan
      chunks := chunks
      datasetSha256 := libraries.sha256Hex payload
      manifestHash := manifestHash }

/-- The fields of the snapshot. -/
def PlannedIdentity.snapshotIdentity (planned : PlannedIdentity)
    (arguments : BuildArguments) (identityHash : String) (createdAt : ℤ) :
    SnapshotIdentity :=
  { snapshotId := libraries.uuidText (libraries.uuid5 identityHash)
    corpusSnapshotId := arguments.corpusSnapshotId
    parseSnapshotId := planned.parseSnapshotId
    chunkStrategy := planned.chunkStrategy
    modelId := arguments.modelId
    queryModelId := arguments.queryModelId
    dimension := arguments.dimension
    normalization := "l2"
    expectedChunkCount := planned.chunks.length
    artifactManifestHash := planned.manifestHash
    indexStrategy := planned.indexPlan.strategy
    candidateFactor := planned.indexPlan.candidateFactor
    createdAt := createdAt }

/-- `build_plan`. -/
def buildPlan (dataset : DatasetFile) (arguments : BuildArguments) :
    Except PyException EmbeddingBuildPlan := do
  raiseIf (dataset.isFile = false ∨ dataset.isSymlink = true)
    (buildGateError "chunk dataset must be a regular non-symlink file")
  let planned ← planIdentity libraries dataset.payload arguments.dimension
  let planHash ← libraries.canonicalJsonHash (planned.identity arguments)
  let createdAt ← libraries.fromTimestamp dataset.modified
  let snapshot ← embeddingSnapshot
    (planned.snapshotIdentity libraries arguments planHash createdAt) false
    none "pending"
  .ok
    { planHash := planHash
      snapshot := snapshot
      chunks := planned.chunks
      totalChunks := planned.chunks.length
      totalTokens := (planned.chunks.map ChunkEmbeddingInput.tokenCount).sum
      datasetSha256 := planned.datasetSha256 }

end Plan

end RagBench
