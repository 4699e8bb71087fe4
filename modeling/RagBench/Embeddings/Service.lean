import RagBench.Embeddings.Repository

/-!
# Embedding the chunks of a snapshot

An attempt sends the chunks that have no vector yet, batch by batch, and
stores the vectors of a batch before it sends the next one.
-/

namespace RagBench

structure EmbeddingService where
  maxBatchItems : ℕ
  maxBatchTokens : ℤ
  supportsInputType : Bool
  limits_positive : 0 < maxBatchItems ∧ 0 < maxBatchTokens

/-- `sum(chunk.token_count for chunk in batch)`. -/
def batchTokens (batch : List ChunkEmbeddingInput) : ℤ :=
  (batch.map ChunkEmbeddingInput.tokenCount).sum

/-- A call of the gateway, what it answered, and the repository at that
moment. -/
structure EmbedCall where
  snapshotId : String
  batch : List ChunkEmbeddingInput
  request : EmbedRequest
  response : Except PyException EmbedResponse
  repository : MemoryEmbeddingRepository

/-- The gateway at the calls of an attempt, by their numbers. -/
abbrev EmbedGateway := ℕ → EmbedRequest → Except PyException EmbedResponse

/-- What an attempt leaves behind. -/
structure EmbedOutcome (α : Type) where
  result : Except PyException α
  repository : MemoryEmbeddingRepository
  calls : List EmbedCall := []

/-- The vector of an embedding: `vector / norm`. -/
def unitVector (libraries : EmbeddingLibraries) (embedding : List PyFloat) :
    List PyFloat :=
  embedding.map fun value =>
    libraries.divide value (libraries.norm embedding)

/-- `_validate_complete_index`. -/
def validateCompleteIndex (libraries : EmbeddingLibraries)
    (snapshot : EmbeddingSnapshot) : Except PyException Unit := do
  let plan ← embeddingIndexPlan snapshot.dimension
  let expected := (hnswIndexName libraries snapshot.snapshotId
    snapshot.dimension).or snapshot.indexName
  raiseIf (¬ (snapshot.indexStrategy = plan.strategy ∧
        snapshot.candidateFactor = plan.candidateFactor ∧
          snapshot.indexState = "ready" ∧
            snapshot.indexName.any (· ≠ "")) ∨
      snapshot.indexName ≠ expected)
    (.runtimeError "embedding snapshot requires migration or index rebuild")

/-- The loop body of `_validate_response`. -/
def validateEmbedding (libraries : EmbeddingLibraries)
    (expectedDimension : ℤ) (embedding : List PyFloat) :
    Except PyException (List PyFloat) := do
  raiseIf ((embedding.length : ℤ) ≠ expectedDimension)
    (.valueError "embedding response dimension does not match snapshot")
  raiseIf (∃ value ∈ embedding, ¬ value.isFinite)
    (.valueError "embedding response must contain finite values")
  raiseIf ((libraries.norm embedding).equals (.finite 0))
    (.valueError "embedding response contains a zero vector")
  return unitVector libraries embedding

/-- `_validate_response`. -/
def validateResponse (libraries : EmbeddingLibraries)
    (response : EmbedResponse) (expectedCount : ℕ) (expectedDimension : ℤ)
    (expectedModelId : String) : Except PyException (List (List PyFloat)) := do
  raiseIf (response.modelId ≠ some expectedModelId)
    (.valueError "embedding response model does not match snapshot model")
  raiseIf (response.embeddings.length ≠ expectedCount)
    (.valueError "embedding response count does not match request")
  response.embeddings.mapM (validateEmbedding libraries expectedDimension)

namespace EmbeddingService

variable (service : EmbeddingService)

/-- The loop of `_batches`. -/
def batchesFrom (batches : List (List ChunkEmbeddingInput))
    (current : List ChunkEmbeddingInput) (currentTokens : ℤ) :
    List ChunkEmbeddingInput →
      Except PyException (List (List ChunkEmbeddingInput))
  | [] => .ok (if current = [] then batches else batches ++ [current])
  | chunk :: rest =>
      if service.maxBatchTokens < chunk.tokenCount then
        .error (.valueError
          "single chunk exceeds embedding request token limit")
      else if current ≠ [] ∧ (service.maxBatchItems ≤ current.length ∨
          service.maxBatchTokens < currentTokens + chunk.tokenCount) then
        batchesFrom (batches ++ [current]) [chunk] chunk.tokenCount rest
      else
        batchesFrom batches (current ++ [chunk])
          (currentTokens + chunk.tokenCount) rest

/-- `_batches`. -/
def batches (chunks : List ChunkEmbeddingInput) :
    Except PyException (List (List ChunkEmbeddingInput)) :=
  service.batchesFrom [] [] 0 chunks

/-- `_mode_params`. -/
def modeParams (mode : String) : JsonObject :=
  if service.supportsInputType then [("input_type", .str mode)] else []

/-- The request of a batch. -/
def embedRequest (snapshot : EmbeddingSnapshot)
    (batch : List ChunkEmbeddingInput) : EmbedRequest :=
  { modelId := snapshot.modelId
    texts := batch.map ChunkEmbeddingInput.content
    inputTokens := batchTokens batch
    providerParams := service.modeParams "document" }

/-- The loop of `embed_chunks`. -/
def embedBatches (libraries : EmbeddingLibraries) (gateway : EmbedGateway)
    (snapshot : EmbeddingSnapshot) :
    List (List ChunkEmbeddingInput) → ℕ → MemoryEmbeddingRepository →
      EmbedOutcome Unit
  | [], _, repository =>
      { result := .ok ()
        repository := repository }
  | batch :: rest, number, repository =>
      let request := service.embedRequest snapshot batch
      let call : EmbedCall :=
        { snapshotId := snapshot.snapshotId
          batch := batch
          request := request
          response := gateway number request
          repository := repository }
      let vectors := call.response.bind fun response =>
        validateResponse libraries response batch.length snapshot.dimension
          snapshot.modelId
      match vectors with
      | .error error =>
          { result := .error error
            repository := repository
            calls := [call] }
      | .ok vectors =>
          match repository.persistBatch snapshot.snapshotId
              ((batch.map ChunkEmbeddingInput.chunkId).zip vectors) with
          | (.error error, after) =>
              { result := .error error
                repository := after
                calls := [call] }
          | (.ok (), after) =>
              let later := embedBatches libraries gateway snapshot rest
                (number + 1) after
              { later with calls := call :: later.calls }

/-- `if existing is not None and existing.complete`. -/
def validateExisting (libraries : EmbeddingLibraries) :
    Option EmbeddingSnapshot → Except PyException Unit
  | some existing =>
      if existing.complete then validateCompleteIndex libraries existing
      else .ok ()
  | none => .ok ()

/-- `embed_chunks` up to `create_snapshot`. -/
def openSnapshot (libraries : EmbeddingLibraries)
    (repository : MemoryEmbeddingRepository) (snapshot : EmbeddingSnapshot)
    (chunks : List ChunkEmbeddingInput) :
    Except PyException (EmbeddingSnapshot × MemoryEmbeddingRepository) := do
  raiseIf (chunks.length ≠ snapshot.expectedChunkCount)
    (.valueError "chunk count does not match embedding snapshot plan")
  raiseIf (¬ (chunks.map ChunkEmbeddingInput.chunkId).Nodup)
    (.valueError "embedding snapshot chunks must have unique IDs")
  validateExisting libraries (repository.getSnapshot snapshot.snapshotId)
  repository.createSnapshot libraries.toPlatform snapshot chunks

/-- The batches of the chunks without a vector. -/
def missingBatches (repository : MemoryEmbeddingRepository)
    (snapshotId : String) (chunks : List ChunkEmbeddingInput) :
    Except PyException (List (List ChunkEmbeddingInput)) := do
  let completed ← repository.completedChunkIds snapshotId
  service.batches (chunks.filter fun chunk => chunk.chunkId ∉ completed)

/-- `embed_chunks` from the end of its loop on. -/
def finishEmbedding (libraries : EmbeddingLibraries) (snapshotId : String)
    (sent : EmbedOutcome Unit) : EmbedOutcome EmbeddingSnapshot :=
  match sent.result with
  | .error error =>
      { result := .error error
        repository := sent.repository
        calls := sent.calls }
  | .ok () =>
      let (result, finalized) :=
        sent.repository.finalizeSnapshot libraries snapshotId
      { result := result
        repository := finalized
        calls := sent.calls }

/-- `embed_chunks`. -/
def embedChunks (libraries : EmbeddingLibraries) (gateway : EmbedGateway)
    (repository : MemoryEmbeddingRepository) (snapshot : EmbeddingSnapshot)
    (chunks : List ChunkEmbeddingInput) : EmbedOutcome EmbeddingSnapshot :=
  match openSnapshot libraries repository snapshot chunks with
  | .error error =>
      { result := .error error
        repository := repository }
  | .ok (stored, opened) =>
      if stored.complete then
        { result := (validateCompleteIndex libraries stored).map
            fun _ => stored
          repository := opened }
      else
        match service.missingBatches opened snapshot.snapshotId chunks with
        | .error error =>
            { result := .error error
              repository := opened }
        | .ok batches =>
            finishEmbedding libraries snapshot.snapshotId
              (service.embedBatches libraries gateway snapshot batches 0
                opened)

end EmbeddingService

/-! ## The batches -/

namespace EmbeddingService

variable {service : EmbeddingService}

/-- A batch that may be sent. -/
structure Fits (service : EmbeddingService)
    (batch : List ChunkEmbeddingInput) : Prop where
  nonempty : batch ≠ []
  items : batch.length ≤ service.maxBatchItems
  tokens : batchTokens batch ≤ service.maxBatchTokens

theorem batchTokens_append (batch : List ChunkEmbeddingInput)
    (chunk : ChunkEmbeddingInput) :
    batchTokens (batch ++ [chunk]) = batchTokens batch + chunk.tokenCount := by
  simp [batchTokens]

theorem batchTokens_singleton (chunk : ChunkEmbeddingInput) :
    batchTokens [chunk] = chunk.tokenCount := by
  simp [batchTokens]

/-- The loop closes a batch before it would break a limit. -/
theorem batchesFrom_spec {chunks : List ChunkEmbeddingInput}
    {batches made : List (List ChunkEmbeddingInput)}
    {current : List ChunkEmbeddingInput}
    (closed : ∀ batch ∈ batches, service.Fits batch)
    (filling : current = [] ∨ service.Fits current)
    (accepted : service.batchesFrom batches current (batchTokens current)
      chunks = .ok made) :
    made.flatten = batches.flatten ++ current ++ chunks ∧
      ∀ batch ∈ made, service.Fits batch := by
  induction chunks generalizing batches current with
  | nil =>
      obtain rfl := Except.ok.inj accepted
      rcases filling with rfl | fits
      · simpa using closed
      · rw [if_neg fits.nonempty]
        refine ⟨by simp, fun batch member => ?_⟩
        rcases List.mem_append.mp member with earlier | last
        · exact closed batch earlier
        · exact List.mem_singleton.mp last ▸ fits
  | cons chunk rest induction =>
      rw [batchesFrom] at accepted
      split_ifs at accepted with large full
      · have fits : service.Fits current :=
          filling.resolve_left full.1
        rw [← batchTokens_singleton] at accepted
        obtain ⟨joined, within⟩ := induction
          (fun batch member => (List.mem_append.mp member).elim
            (closed batch) fun last => List.mem_singleton.mp last ▸ fits)
          (.inr
            { nonempty := List.cons_ne_nil chunk []
              items := service.limits_positive.1
              tokens := by
                rw [batchTokens_singleton]
                exact not_lt.mp large })
          accepted
        exact ⟨by simpa using joined, within⟩
      · have grown : service.Fits (current ++ [chunk]) := by
          rcases filling with rfl | fits
          · exact
              { nonempty := by simp
                items := service.limits_positive.1
                tokens := by
                  rw [List.nil_append, batchTokens_singleton]
                  exact not_lt.mp large }
          · have room : ¬ (service.maxBatchItems ≤ current.length ∨
                service.maxBatchTokens <
                  batchTokens current + chunk.tokenCount) :=
              fun many => full ⟨fits.nonempty, many⟩
            rw [not_or, not_le, not_lt] at room
            exact
              { nonempty := by simp
                items := by
                  rw [List.length_append]
                  exact room.1
                tokens := by
                  rw [batchTokens_append]
                  exact room.2 }
        rw [← batchTokens_append] at accepted
        obtain ⟨joined, within⟩ := induction closed (.inr grown) accepted
        exact ⟨by simpa using joined, within⟩

theorem batches_spec {chunks : List ChunkEmbeddingInput}
    {made : List (List ChunkEmbeddingInput)}
    (accepted : service.batches chunks = .ok made) :
    made.flatten = chunks ∧ ∀ batch ∈ made, service.Fits batch :=
  batchesFrom_spec (List.forall_mem_nil _) (.inl rfl) accepted

/-- A chunk over the limit is refused wherever it stands. -/
theorem batchesFrom_large {chunks : List ChunkEmbeddingInput}
    {chunk : ChunkEmbeddingInput} (member : chunk ∈ chunks)
    (large : service.maxBatchTokens < chunk.tokenCount)
    (batches : List (List ChunkEmbeddingInput))
    (current : List ChunkEmbeddingInput) (currentTokens : ℤ) :
    service.batchesFrom batches current currentTokens chunks =
      .error (.valueError
        "single chunk exceeds embedding request token limit") := by
  induction chunks generalizing batches current currentTokens with
  | nil => cases member
  | cons first rest induction =>
      rw [batchesFrom]
      rcases List.mem_cons.mp member with rfl | later
      · rw [if_pos large]
      · split_ifs
        · rfl
        · exact induction later _ _ _
        · exact induction later _ _ _

theorem batches_large {chunks : List ChunkEmbeddingInput}
    {chunk : ChunkEmbeddingInput} (member : chunk ∈ chunks)
    (large : service.maxBatchTokens < chunk.tokenCount) :
    service.batches chunks =
      .error (.valueError
        "single chunk exceeds embedding request token limit") :=
  batchesFrom_large member large [] [] 0

end EmbeddingService

end RagBench
