import RagBench.Embeddings.Repository

/-!
# Embedding snapshots in the database

`create_snapshot` runs in one transaction under the lock of the snapshot.
-/

namespace RagBench

/-- The columns that `create_snapshot` reads and writes. -/
structure SnapshotRow where
  id : Uuid
  corpusSnapshotId : String
  parseSnapshotId : String
  chunkStrategy : String
  modelId : String
  queryModelId : String
  dimension : ℤ
  normalization : String
  expectedChunkCount : ℕ
  artifactManifestHash : String
  indexStrategy : String
  candidateFactor : ℕ
  complete : Bool
  indexName : Option String
  indexState : String
  createdAt : ℤ

structure ArtifactRow where
  embeddingSnapshotId : Uuid
  chunkId : String
  documentId : String
  contentSha256 : String
  tokenCount : ℤ

/-- The two tables, with the foreign key between them. -/
structure EmbeddingDatabase where
  snapshots : Dict Uuid SnapshotRow
  artifacts : List ArtifactRow
  registered : ∀ row ∈ artifacts, row.embeddingSnapshotId ∈ snapshots.keys

namespace EmbeddingDatabase

variable (libraries : EmbeddingLibraries)

/-- `_from_row`. -/
def fromRow (row : SnapshotRow) : Except PyException EmbeddingSnapshot :=
  embeddingSnapshot
    { snapshotId := libraries.uuidText row.id
      corpusSnapshotId := row.corpusSnapshotId
      parseSnapshotId := row.parseSnapshotId
      chunkStrategy := row.chunkStrategy
      modelId := row.modelId
      queryModelId := row.queryModelId
      dimension := row.dimension
      normalization := row.normalization
      expectedChunkCount := row.expectedChunkCount
      artifactManifestHash := row.artifactManifestHash
      indexStrategy := row.indexStrategy
      candidateFactor := row.candidateFactor
      createdAt := row.createdAt }
    row.complete row.indexName row.indexState

/-- The row that is added for a snapshot. -/
def newRow (id : Uuid) (snapshot : EmbeddingSnapshot) : SnapshotRow :=
  { id := id
    corpusSnapshotId := snapshot.corpusSnapshotId
    parseSnapshotId := snapshot.parseSnapshotId
    chunkStrategy := snapshot.chunkStrategy
    modelId := snapshot.modelId
    queryModelId := snapshot.queryModelId
    dimension := snapshot.dimension
    normalization := snapshot.normalization
    expectedChunkCount := snapshot.expectedChunkCount
    artifactManifestHash := snapshot.artifactManifestHash
    indexStrategy := snapshot.indexStrategy
    candidateFactor := snapshot.candidateFactor
    complete := false
    indexName := none
    indexState := "pending"
    createdAt := snapshot.createdAt }

def newArtifact (id : Uuid) (chunk : ChunkEmbeddingInput) : ArtifactRow :=
  { embeddingSnapshotId := id
    chunkId := chunk.chunkId
    documentId := chunk.documentId
    contentSha256 := chunk.contentSha256
    tokenCount := chunk.tokenCount }

/-- `evidence`, of the rows of a snapshot. -/
def evidence (rows : List ArtifactRow) : Dict String (String × String × ℤ) :=
  .ofList (rows.map fun row =>
    (row.chunkId, row.documentId, row.contentSha256, row.tokenCount))

/-- `expected`. -/
def expected (chunks : List ChunkEmbeddingInput) :
    Dict String (String × String × ℤ) :=
  .ofList (chunks.map fun chunk =>
    (chunk.chunkId, chunk.documentId, chunk.contentSha256, chunk.tokenCount))

def artifactsOf (database : EmbeddingDatabase) (id : Uuid) :
    List ArtifactRow :=
  database.artifacts.filter fun row => row.embeddingSnapshotId = id

/-- `session.add` of the snapshot and `session.add_all` of its chunks. -/
def register (database : EmbeddingDatabase) (id : Uuid)
    (snapshot : EmbeddingSnapshot) (chunks : List ChunkEmbeddingInput) :
    EmbeddingDatabase :=
  { snapshots := database.snapshots.set id (newRow id snapshot)
    artifacts := database.artifacts ++ chunks.map (newArtifact id)
    registered := by
      intro row member
      rw [Dict.mem_keys_set]
      rcases List.mem_append.mp member with old | new
      · exact .inr (database.registered row old)
      · obtain ⟨chunk, -, rfl⟩ := List.mem_map.mp new
        exact .inl rfl }

def createSnapshot (database : EmbeddingDatabase)
    (snapshot : EmbeddingSnapshot) (chunks : List ChunkEmbeddingInput) :
    Except PyException (EmbeddingSnapshot × EmbeddingDatabase) := do
  let manifest ← chunkManifestHash libraries.toPlatform chunks
  raiseIf (manifest ≠ snapshot.artifactManifestHash)
    (.valueError "chunk manifest does not match snapshot")
  match libraries.parseUuid snapshot.snapshotId with
  | none => .error (.valueError "badly formed hexadecimal UUID string")
  | some id =>
      match database.snapshots.get? id with
      | some existing => do
          let restored ← fromRow libraries existing
          raiseIf (restored.immutableIdentity ≠ snapshot.immutableIdentity)
            (.valueError "embedding snapshot metadata is immutable")
          raiseIf (¬ (evidence (database.artifactsOf id)).Agrees
              (expected chunks))
            (.valueError "chunk manifest is immutable")
          return (restored, database)
      | none => return (snapshot, database.register id snapshot chunks)

end EmbeddingDatabase

end RagBench
