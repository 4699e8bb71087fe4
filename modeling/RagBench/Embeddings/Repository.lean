import Mathlib.Data.String.Basic
import RagBench.Providers.Messages
import RagBench.Sorting
import RagBench.Utf8

/-!
# Embedding snapshots

A snapshot is registered together with its chunks, receives its vectors in
batches and is finalized when each chunk has its vector.  What identifies a
snapshot never changes; whether it is complete, and its index, do.
-/

namespace RagBench

/-- What the embedding modules use of the libraries beyond `Platform`. -/
structure EmbeddingLibraries extends Platform where
  /-- `json.loads`. -/
  loads : List Char → Option Json
  /-- `str(value)`. -/
  str : Json → String
  /-- `datetime.fromtimestamp(seconds, tz=UTC)`, in microseconds. -/
  fromTimestamp : ℚ → Except PyException ℤ
  /-- `uuid5(RAGBENCH_NAMESPACE, name)`. -/
  uuid5 : String → Uuid
  /-- `UUID(text)`. -/
  parseUuid : String → Option Uuid
  parseUuid_text : ∀ id, parseUuid (uuidText id) = some id
  /-- `id.hex`. -/
  uuidHex : Uuid → String
  /-- `float(np.linalg.norm(vector))`. -/
  norm : List PyFloat → PyFloat
  /-- Division of floats, by a divisor other than zero. -/
  divide : PyFloat → PyFloat → PyFloat

structure ChunkEmbeddingInput where
  chunkId : String
  documentId : String
  content : String
  tokenCount : ℤ
  contentSha256 : String
  sourceMetadata : List (String × String)
  identified : chunkId ≠ "" ∧ documentId ≠ "" ∧ content ≠ ""
  tokensPositive : 0 < tokenCount
  deriving DecidableEq

/-- `ChunkEmbeddingInput(...)` without a content hash. -/
def chunkEmbeddingInput (platform : Platform)
    (chunkId documentId content : String) (tokenCount : ℤ)
    (sourceMetadata : List (String × String)) :
    Except PyException ChunkEmbeddingInput :=
  if identified : chunkId ≠ "" ∧ documentId ≠ "" ∧ content ≠ "" then
    if tokensPositive : 0 < tokenCount then
      .ok
        { chunkId := chunkId
          documentId := documentId
          content := content
          tokenCount := tokenCount
          contentSha256 := platform.sha256Hex (utf8 content.toList)
          sourceMetadata := sourceMetadata
          identified := identified
          tokensPositive := tokensPositive }
    else .error (.valueError "chunk token_count must be positive")
  else .error (.valueError "chunk identity and content cannot be empty")

/-- `frozen_source_metadata`. -/
def frozenSourceMetadata (platform : Platform)
    (value : List (String × Json)) : List (String × String) :=
  (sortBy Prod.fst value).map fun (key, item) =>
    (key, platform.jsonDumps item)

/-- `asdict(chunk)`. -/
def ChunkEmbeddingInput.asdict (chunk : ChunkEmbeddingInput) : Json :=
  .object
    [("chunk_id", .str chunk.chunkId),
      ("document_id", .str chunk.documentId),
      ("content", .str chunk.content),
      ("token_count", .int chunk.tokenCount),
      ("content_sha256", .str chunk.contentSha256),
      ("source_metadata", .array (chunk.sourceMetadata.map fun entry =>
        .array [.str entry.1, .str entry.2]))]

/-- `chunk_manifest_hash`. -/
def chunkManifestHash (platform : Platform)
    (chunks : List ChunkEmbeddingInput) : Except PyException String :=
  platform.canonicalJsonHash (.array
    ((sortBy ChunkEmbeddingInput.chunkId chunks).map
      ChunkEmbeddingInput.asdict))

structure EmbeddingIndexPlan where
  strategy : String
  candidateFactor : ℕ
  deriving DecidableEq, Repr

/-- `embedding_index_plan`. -/
def embeddingIndexPlan (dimension : ℤ) :
    Except PyException EmbeddingIndexPlan :=
  if ¬ (1 ≤ dimension ∧ dimension ≤ 16000) then
    .error (.valueError
      "embedding dimension must be an integer from 1 through 16000")
  else if dimension ≤ 2000 then .ok ⟨"full-vector-hnsw", 1⟩
  else .ok ⟨"subvector-2000-rerank", 4⟩

/-- The fields of `immutable_identity`.  `createdAt` is an instant in
microseconds. -/
structure SnapshotIdentity where
  snapshotId : String
  corpusSnapshotId : String
  parseSnapshotId : String
  chunkStrategy : String
  modelId : String
  queryModelId : String
  dimension : ℤ
  normalization : String
  expectedChunkCount : ℕ
  artifactManifestHash : String
  indexStrategy : String
  candidateFactor : ℕ
  createdAt : ℤ
  deriving DecidableEq

/-- The checks of `EmbeddingSnapshot.__post_init__`. -/
structure SnapshotIdentity.Valid (identity : SnapshotIdentity) : Prop where
  identified : identity.snapshotId ≠ "" ∧ identity.corpusSnapshotId ≠ "" ∧
    identity.parseSnapshotId ≠ "" ∧ identity.chunkStrategy ≠ "" ∧
      identity.modelId ≠ "" ∧ identity.queryModelId ≠ ""
  planned : embeddingIndexPlan identity.dimension =
    .ok ⟨identity.indexStrategy, identity.candidateFactor⟩
  digest : identity.artifactManifestHash.length = 64
  normalized : identity.normalization = "l2"

structure EmbeddingSnapshot extends SnapshotIdentity where
  complete : Bool := false
  indexName : Option String := none
  indexState : String := "pending"
  valid : toSnapshotIdentity.Valid

/-- `immutable_identity`. -/
def EmbeddingSnapshot.immutableIdentity (snapshot : EmbeddingSnapshot) :
    SnapshotIdentity :=
  snapshot.toSnapshotIdentity

/-- `EmbeddingSnapshot(...)`. -/
def embeddingSnapshot (identity : SnapshotIdentity) (complete : Bool)
    (indexName : Option String) (indexState : String) :
    Except PyException EmbeddingSnapshot :=
  if identified : identity.snapshotId ≠ "" ∧
      identity.corpusSnapshotId ≠ "" ∧ identity.parseSnapshotId ≠ "" ∧
        identity.chunkStrategy ≠ "" ∧ identity.modelId ≠ "" ∧
          identity.queryModelId ≠ "" then
    match planned : embeddingIndexPlan identity.dimension with
    | .error error => .error error
    | .ok plan =>
        if same : plan.strategy = identity.indexStrategy ∧
            plan.candidateFactor = identity.candidateFactor then
          if digest : identity.artifactManifestHash.length = 64 then
            if normalized : identity.normalization = "l2" then
              .ok
                { toSnapshotIdentity := identity
                  complete := complete
                  indexName := indexName
                  indexState := indexState
                  valid :=
                    { identified := identified
                      planned := by rw [planned, ← same.1, ← same.2]
                      digest := digest
                      normalized := normalized } }
            else .error (.valueError "only l2 normalization is supported")
          else .error (.valueError
            "artifact manifest hash must be a SHA-256 digest")
        else .error (.valueError
          "embedding index strategy does not match dimension")
  else .error (.valueError
    "embedding snapshot identity fields cannot be empty")

theorem embeddingSnapshot_ok {identity : SnapshotIdentity} {complete : Bool}
    {indexName : Option String} {indexState : String}
    {snapshot : EmbeddingSnapshot} :
    embeddingSnapshot identity complete indexName indexState = .ok snapshot ↔
      snapshot.toSnapshotIdentity = identity ∧
        snapshot.complete = complete ∧ snapshot.indexName = indexName ∧
          snapshot.indexState = indexState := by
  constructor
  · intro made
    unfold embeddingSnapshot at made
    split at made
    · split at made
      · cases made
      · split_ifs at made
        obtain rfl := Except.ok.inj made
        exact ⟨rfl, rfl, rfl, rfl⟩
    · cases made
  · rintro ⟨rfl, rfl, rfl, rfl⟩
    obtain ⟨identity, complete, indexName, indexState, valid⟩ := snapshot
    unfold embeddingSnapshot
    rw [dif_pos valid.identified]
    split
    · next error failed =>
        rw [valid.planned] at failed
        cases failed
    · next plan made =>
        obtain rfl := Except.ok.inj (valid.planned.symm.trans made)
        rw [dif_pos ⟨rfl, rfl⟩, dif_pos valid.digest, dif_pos valid.normalized]

/-- `hnsw_index_spec(UUID(snapshot_id), dimension).name`, or `none` where one
of the two raises `ValueError`. -/
def hnswIndexName (libraries : EmbeddingLibraries) (snapshotId : String)
    (dimension : ℤ) : Option String := do
  let id ← libraries.parseUuid snapshotId
  let _ ← (embeddingIndexPlan dimension).toOption
  return "ix_chunk_embedding_hnsw_" ++ libraries.uuidHex id ++ "_" ++
    toString dimension

/-! ## The memory repository -/

/-- The dictionaries of a snapshot. -/
structure StoredSnapshot where
  snapshot : EmbeddingSnapshot
  vectors : Dict String (List PyFloat)
  artifacts : Dict String ChunkEmbeddingInput

structure MemoryEmbeddingRepository where
  stored : Dict String StoredSnapshot
  finalizeAttempts : ℕ

namespace MemoryEmbeddingRepository

def empty : MemoryEmbeddingRepository :=
  { stored := .empty
    finalizeAttempts := 0 }

/-- `{chunk.chunk_id: chunk for chunk in chunks}`. -/
def artifactsOf (chunks : List ChunkEmbeddingInput) :
    Dict String ChunkEmbeddingInput :=
  .ofList (chunks.map fun chunk => (chunk.chunkId, chunk))

def getSnapshot (repository : MemoryEmbeddingRepository)
    (snapshotId : String) : Option EmbeddingSnapshot :=
  (repository.stored.get? snapshotId).map StoredSnapshot.snapshot

/-- `_require_snapshot`. -/
def requireSnapshot (repository : MemoryEmbeddingRepository)
    (snapshotId : String) : Except PyException StoredSnapshot :=
  match repository.stored.get? snapshotId with
  | some stored => .ok stored
  | none => .error (.keyError ("unknown embedding snapshot: " ++ snapshotId))

def createSnapshot (platform : Platform)
    (repository : MemoryEmbeddingRepository) (snapshot : EmbeddingSnapshot)
    (chunks : List ChunkEmbeddingInput) :
    Except PyException (EmbeddingSnapshot × MemoryEmbeddingRepository) := do
  let manifest ← chunkManifestHash platform chunks
  raiseIf (manifest ≠ snapshot.artifactManifestHash)
    (.valueError "chunk manifest does not match snapshot")
  match repository.stored.get? snapshot.snapshotId with
  | some existing =>
      raiseIf (existing.snapshot.immutableIdentity ≠
          snapshot.immutableIdentity)
        (.valueError "embedding snapshot metadata is immutable")
      raiseIf (¬ existing.artifacts.Agrees (artifactsOf chunks))
        (.valueError "chunk manifest is immutable")
      return (existing.snapshot, repository)
  | none =>
      return (snapshot,
        { repository with
          stored := repository.stored.set snapshot.snapshotId
            { snapshot := snapshot
              vectors := .empty
              artifacts := artifactsOf chunks } })

section Create

variable {platform : Platform} {repository after : MemoryEmbeddingRepository}
  {stored : EmbeddingSnapshot} {chunks : List ChunkEmbeddingInput}

/-- When `create_snapshot` accepts a snapshot. -/
theorem createSnapshot_ok {snapshot : EmbeddingSnapshot} :
    createSnapshot platform repository snapshot chunks =
        .ok (stored, after) ↔
      chunkManifestHash platform chunks =
          .ok snapshot.artifactManifestHash ∧
        ((∃ existing,
            repository.stored.get? snapshot.snapshotId = some existing ∧
              existing.snapshot.toSnapshotIdentity =
                  snapshot.toSnapshotIdentity ∧
                existing.artifacts.Agrees (artifactsOf chunks) ∧
                  stored = existing.snapshot ∧ after = repository) ∨
          repository.stored.get? snapshot.snapshotId = none ∧
            stored = snapshot ∧
              after =
                { repository with
                  stored := repository.stored.set snapshot.snapshotId
                    { snapshot := snapshot
                      vectors := .empty
                      artifacts := artifactsOf chunks } }) := by
  constructor
  · intro created
    obtain ⟨manifest, hashed, checking⟩ := bind_eq_ok.mp created
    obtain ⟨⟨⟩, checked, decided⟩ := bind_eq_ok.mp checking
    obtain rfl := not_not.mp (raiseIf_eq_ok.mp checked)
    refine ⟨hashed, ?_⟩
    clear created checking
    cases found : repository.stored.get? snapshot.snapshotId with
    | some existing =>
        rw [found] at decided
        obtain ⟨⟨⟩, same, compared⟩ := bind_eq_ok.mp decided
        obtain ⟨⟨⟩, agrees, returned⟩ := bind_eq_ok.mp compared
        obtain ⟨rfl, rfl⟩ := Prod.mk.inj (Except.ok.inj returned)
        exact .inl ⟨existing, rfl, not_not.mp (raiseIf_eq_ok.mp same),
          not_not.mp (raiseIf_eq_ok.mp agrees), rfl, rfl⟩
    | none =>
        rw [found] at decided
        obtain ⟨rfl, rfl⟩ := Prod.mk.inj (Except.ok.inj decided)
        exact .inr ⟨rfl, rfl, rfl⟩
  · rintro ⟨hashed, created⟩
    refine bind_eq_ok.mpr ⟨_, hashed, bind_eq_ok.mpr
      ⟨(), raiseIf_eq_ok.mpr (not_not.mpr rfl), ?_⟩⟩
    rcases created with ⟨existing, found, same, agrees, rfl, rfl⟩ |
      ⟨missing, rfl, rfl⟩
    · rw [found]
      exact bind_eq_ok.mpr ⟨(), raiseIf_eq_ok.mpr (not_not.mpr same),
        bind_eq_ok.mpr ⟨(), raiseIf_eq_ok.mpr (not_not.mpr agrees), rfl⟩⟩
    · rw [missing]
      rfl

end Create

def completedChunkIds (repository : MemoryEmbeddingRepository)
    (snapshotId : String) : Except PyException (Finset String) := do
  let stored ← repository.requireSnapshot snapshotId
  return stored.vectors.keys.toFinset

/-- `existing == vector`. -/
def sameVector (existing vector : List PyFloat) : Bool :=
  existing.length = vector.length &&
    (existing.zip vector).all fun (left, right) => left.equals right

/-- The checks of `persist_batch` on one vector. -/
def checkVector (stored : StoredSnapshot) (chunkId : String)
    (vector : List PyFloat) : Except PyException Unit := do
  raiseIf ((vector.length : ℤ) ≠ stored.snapshot.dimension)
    (.valueError "embedding dimension does not match snapshot")
  raiseIf (∃ existing ∈ stored.vectors.get? chunkId,
      ¬ sameVector existing vector)
    (.valueError "chunk already has a different vector")
  raiseIf (stored.artifacts.get? chunkId = none)
    (.valueError "vector has no registered chunk artifact")
  raiseIf ((∃ value ∈ vector, ¬ value.isFinite) ∨
      ∀ value ∈ vector, value.equals (.finite 0))
    (.valueError "stored embedding must be finite and nonzero")

/-- The loop of `persist_batch`; the vectors before a refused one stay. -/
def persistVectors : StoredSnapshot → List (String × List PyFloat) →
    Except PyException Unit × StoredSnapshot
  | stored, [] => (.ok (), stored)
  | stored, (chunkId, vector) :: rest =>
      match checkVector stored chunkId vector with
      | .error error => (.error error, stored)
      | .ok () =>
          persistVectors
            { stored with vectors := stored.vectors.set chunkId vector } rest

def persistBatch (repository : MemoryEmbeddingRepository)
    (snapshotId : String) (vectors : List (String × List PyFloat)) :
    Except PyException Unit × MemoryEmbeddingRepository :=
  match repository.requireSnapshot snapshotId with
  | .error error => (.error error, repository)
  | .ok stored =>
      if stored.snapshot.complete then
        (.error (.runtimeError "complete embedding snapshots are immutable"),
          repository)
      else
        let (result, after) := persistVectors stored vectors
        (result,
          { repository with
            stored := repository.stored.set snapshotId after })

def finalizeSnapshot (libraries : EmbeddingLibraries)
    (repository : MemoryEmbeddingRepository) (snapshotId : String) :
    Except PyException EmbeddingSnapshot × MemoryEmbeddingRepository :=
  let attempted :=
    { repository with finalizeAttempts := repository.finalizeAttempts + 1 }
  match repository.requireSnapshot snapshotId with
  | .error error => (.error error, attempted)
  | .ok stored =>
      if stored.vectors.keys.toFinset ≠ stored.artifacts.keys.toFinset then
        (.error (.runtimeError
          "cannot finalize without exact artifact/vector set"), attempted)
      else
        let completed :=
          { stored.snapshot with
            complete := true
            indexName := (hnswIndexName libraries stored.snapshot.snapshotId
              stored.snapshot.dimension).getD "memory-index"
            indexState := "ready" }
        (.ok completed,
          { attempted with
            stored := repository.stored.set snapshotId
              { stored with snapshot := completed } })

end MemoryEmbeddingRepository

end RagBench
