import RagBench.Embeddings.BuildResume
import RagBench.Embeddings.Service
import RagBench.Transition

/-!
# Attempts at embedding

Attempts follow each other on one repository, for any snapshots, each with its
own limits and a gateway that answers as it likes.  What one attempt has
stored the next one neither sends nor changes.
-/

namespace RagBench

/-- One call of `embed_chunks`. -/
structure EmbedAttempt where
  service : EmbeddingService
  gateway : EmbedGateway
  snapshot : EmbeddingSnapshot
  chunks : List ChunkEmbeddingInput

/-- The repository after some attempts, and the calls they made. -/
structure EmbedHistory where
  repository : MemoryEmbeddingRepository
  calls : List EmbedCall

/-- The vector stands at the position of the text of the chunk. -/
structure EmbedCall.Answers (libraries : EmbeddingLibraries)
    (call : EmbedCall) (snapshotId : String) (chunk : ChunkEmbeddingInput)
    (vector : List PyFloat) : Prop where
  named : call.snapshotId = snapshotId
  positioned : ∃ (index : ℕ) (response : EmbedResponse)
      (embedding : List PyFloat),
    call.batch[index]? = some chunk ∧
      call.request.texts[index]? = some chunk.content ∧
        call.response = .ok response ∧
          response.embeddings[index]? = some embedding ∧
            vector = unitVector libraries embedding

/-- A registered snapshot, against the calls made so far. -/
structure StoredSnapshot.Sound (libraries : EmbeddingLibraries)
    (calls : List EmbedCall) (snapshotId : String)
    (stored : StoredSnapshot) : Prop where
  named : stored.snapshot.snapshotId = snapshotId
  counted : stored.artifacts.keys.length = stored.snapshot.expectedChunkCount
  keyed : ∀ chunkId chunk, stored.artifacts.get? chunkId = some chunk →
    chunk.chunkId = chunkId
  answered : ∀ chunkId vector, stored.vectors.get? chunkId = some vector →
    ∃ chunk, stored.artifacts.get? chunkId = some chunk ∧
      ∃ call ∈ calls, call.Answers libraries snapshotId chunk vector
  exact : stored.snapshot.complete = true →
    stored.vectors.keys.toFinset = stored.artifacts.keys.toFinset

namespace MemoryEmbeddingRepository

/-- The stored vector of a chunk. -/
def vector? (repository : MemoryEmbeddingRepository)
    (snapshotId chunkId : String) : Option (List PyFloat) :=
  (repository.stored.get? snapshotId).bind fun stored =>
    stored.vectors.get? chunkId

/-- Snapshots keep their identity, their chunks and their vectors. -/
def Extends (before after : MemoryEmbeddingRepository) : Prop :=
  ∀ snapshotId stored, before.stored.get? snapshotId = some stored →
    ∃ later, after.stored.get? snapshotId = some later ∧
      later.snapshot.toSnapshotIdentity =
          stored.snapshot.toSnapshotIdentity ∧
        later.artifacts = stored.artifacts ∧
          ∀ chunkId vector, stored.vectors.get? chunkId = some vector →
            later.vectors.get? chunkId = some vector

def Sound (libraries : EmbeddingLibraries) (calls : List EmbedCall)
    (repository : MemoryEmbeddingRepository) : Prop :=
  ∀ snapshotId stored, repository.stored.get? snapshotId = some stored →
    stored.Sound libraries calls snapshotId

end MemoryEmbeddingRepository

namespace EmbedAttempt

def perform (libraries : EmbeddingLibraries) (attempt : EmbedAttempt)
    (repository : MemoryEmbeddingRepository) :
    EmbedOutcome EmbeddingSnapshot :=
  attempt.service.embedChunks libraries attempt.gateway repository
    attempt.snapshot attempt.chunks

/-- The chunks that have no vector yet. -/
def missing (attempt : EmbedAttempt)
    (repository : MemoryEmbeddingRepository) : List ChunkEmbeddingInput :=
  attempt.chunks.filter fun chunk =>
    repository.vector? attempt.snapshot.snapshotId chunk.chunkId = none

/-- What an attempt does with a repository. -/
structure Resumes (libraries : EmbeddingLibraries) (attempt : EmbedAttempt)
    (repository : MemoryEmbeddingRepository)
    (outcome : EmbedOutcome EmbeddingSnapshot) : Prop where
  kept : repository.Extends outcome.repository
  /-- A chunk is sent before its vector is stored, never after. -/
  unsent : ∀ call ∈ outcome.calls,
    repository.Extends call.repository ∧
      call.repository.Extends outcome.repository ∧
        ∀ chunk ∈ call.batch, call.repository.vector?
          attempt.snapshot.snapshotId chunk.chunkId = none
  requested : ∀ call ∈ outcome.calls,
    call.snapshotId = attempt.snapshot.snapshotId ∧
      attempt.service.Fits call.batch ∧
        call.request =
          attempt.service.embedRequest attempt.snapshot call.batch
  planned : ∀ batches,
    attempt.service.batches (attempt.missing repository) = .ok batches →
      batches.flatten = attempt.missing repository ∧
        (∀ batch ∈ batches, attempt.service.Fits batch) ∧
          outcome.calls.map EmbedCall.batch <+: batches
  unplanned : ∀ error,
    attempt.service.batches (attempt.missing repository) = .error error →
      outcome.calls = []
  /-- A chunk over the limit is refused before any call. -/
  limited : ∀ chunk ∈ attempt.missing repository,
    attempt.service.maxBatchTokens < chunk.tokenCount →
      outcome.calls = [] ∧ ∃ error, outcome.result = .error error
  /-- A complete snapshot stays as it is. -/
  frozen : ∀ snapshotId stored,
    repository.stored.get? snapshotId = some stored →
      stored.snapshot.complete = true →
        outcome.repository.stored.get? snapshotId = some stored

end EmbedAttempt

namespace EmbedHistory

def empty : EmbedHistory :=
  { repository := .empty
    calls := [] }

/-- The next attempt. -/
def Continues (libraries : EmbeddingLibraries) (before : EmbedHistory)
    (attempt : EmbedAttempt) (after : EmbedHistory) : Prop :=
  after.repository =
      (attempt.perform libraries before.repository).repository ∧
    after.calls =
      before.calls ++ (attempt.perform libraries before.repository).calls

end EmbedHistory

/-! ## The operations of the repository -/

theorem PyFloat.eq_of_equals {left right : PyFloat}
    (same : left.equals right = true) : left = right := by
  cases left <;> cases right <;> simp_all [PyFloat.equals]

namespace MemoryEmbeddingRepository

variable {libraries : EmbeddingLibraries} {calls : List EmbedCall}
  {repository after : MemoryEmbeddingRepository} {snapshotId : String}

theorem sameVector_eq {existing vector : List PyFloat}
    (same : sameVector existing vector = true) : existing = vector := by
  unfold sameVector at same
  rw [Bool.and_eq_true, decide_eq_true_eq, List.all_eq_true] at same
  refine List.ext_getElem same.1 fun index left right => ?_
  have paired : (existing[index], vector[index]) ∈ existing.zip vector :=
    List.mem_of_getElem? (List.getElem?_zip_eq_some.mpr
      ⟨List.getElem?_eq_getElem left, List.getElem?_eq_getElem right⟩)
  exact PyFloat.eq_of_equals (same.2 _ paired)

theorem Extends.refl (repository : MemoryEmbeddingRepository) :
    repository.Extends repository :=
  fun _ stored found => ⟨stored, found, rfl, rfl, fun _ _ held => held⟩

theorem Extends.trans {middle : MemoryEmbeddingRepository}
    (first : repository.Extends middle) (second : middle.Extends after) :
    repository.Extends after := by
  intro snapshotId stored found
  obtain ⟨between, foundBetween, identity, artifacts, vectors⟩ :=
    first snapshotId stored found
  obtain ⟨later, foundLater, identity', artifacts', vectors'⟩ :=
    second snapshotId between foundBetween
  exact ⟨later, foundLater, identity'.trans identity,
    artifacts'.trans artifacts,
    fun chunkId vector held => vectors' _ _ (vectors chunkId vector held)⟩

theorem Sound.mono (sound : repository.Sound libraries calls)
    (more : List EmbedCall) : repository.Sound libraries (calls ++ more) := by
  intro snapshotId stored found
  have held := sound snapshotId stored found
  refine { held with answered := fun chunkId vector given => ?_ }
  obtain ⟨chunk, registered, call, made, answers⟩ :=
    held.answered chunkId vector given
  exact ⟨chunk, registered, call, List.mem_append_left _ made, answers⟩

/-- The vectors of a batch are added to those of the snapshot, up to one that
is refused. -/
theorem persistVectors_spec {pairs : List (String × List PyFloat)}
    {stored later : StoredSnapshot} {result : Except PyException Unit}
    (persisted : persistVectors stored pairs = (result, later)) :
    later.snapshot = stored.snapshot ∧ later.artifacts = stored.artifacts ∧
      (∀ chunkId vector, stored.vectors.get? chunkId = some vector →
        later.vectors.get? chunkId = some vector) ∧
        ∀ chunkId vector, later.vectors.get? chunkId = some vector →
          stored.vectors.get? chunkId = some vector ∨
            (chunkId, vector) ∈ pairs := by
  induction pairs generalizing stored with
  | nil =>
      obtain ⟨-, rfl⟩ := Prod.mk.inj persisted
      exact ⟨rfl, rfl, fun _ _ held => held, fun _ _ held => .inl held⟩
  | cons pair rest induction =>
      obtain ⟨chunkId, vector⟩ := pair
      rw [persistVectors] at persisted
      split at persisted
      · obtain ⟨-, rfl⟩ := Prod.mk.inj persisted
        exact ⟨rfl, rfl, fun _ _ held => held, fun _ _ held => .inl held⟩
      · next checked =>
          obtain ⟨snapshot, artifacts, kept, added⟩ := induction persisted
          refine ⟨snapshot, artifacts, ?_, ?_⟩
          · intro other held found
            refine kept other held ?_
            dsimp only
            rw [Dict.get?_set]
            split_ifs with same
            · subst same
              obtain ⟨⟨⟩, -, checked⟩ := bind_eq_ok.mp checked
              obtain ⟨⟨⟩, compared, -⟩ := bind_eq_ok.mp checked
              have different := raiseIf_eq_ok.mp compared
              have equal : held = vector := sameVector_eq (by
                by_contra unequal
                exact different ⟨held, found, unequal⟩)
              rw [equal]
            · exact found
          · intro other held found
            rcases added other held found with earlier | later
            · dsimp only at earlier
              rw [Dict.get?_set] at earlier
              split_ifs at earlier with same
              · obtain rfl := Option.some.inj earlier
                exact .inr (same ▸ List.mem_cons_self)
              · exact .inl earlier
            · exact .inr (List.mem_cons_of_mem _ later)

/-- What persisting a batch changes: the vectors of its snapshot. -/
theorem persistBatch_spec {pairs : List (String × List PyFloat)}
    {result : Except PyException Unit}
    (persisted : repository.persistBatch snapshotId pairs = (result, after)) :
    after.stored = repository.stored ∨
      ∃ stored later, repository.stored.get? snapshotId = some stored ∧
        stored.snapshot.complete = false ∧
          after.stored = repository.stored.set snapshotId later ∧
            persistVectors stored pairs = (result, later) := by
  unfold persistBatch at persisted
  split at persisted
  · obtain ⟨-, rfl⟩ := Prod.mk.inj persisted
    exact .inl rfl
  · next stored required =>
      split_ifs at persisted with complete
      · obtain ⟨-, rfl⟩ := Prod.mk.inj persisted
        exact .inl rfl
      · obtain ⟨rfl, rfl⟩ := Prod.mk.inj persisted
        refine .inr ⟨stored, _, ?_, Bool.eq_false_iff.mpr complete, rfl, rfl⟩
        unfold requireSnapshot at required
        split at required
        · next found => exact found.trans (congrArg some
            (Except.ok.inj required))
        · cases required

/-- A snapshot that is replaced by one with more vectors. -/
theorem extends_of_set {stored later : StoredSnapshot}
    (found : repository.stored.get? snapshotId = some stored)
    (changed : after.stored = repository.stored.set snapshotId later)
    (identity : later.snapshot.toSnapshotIdentity =
      stored.snapshot.toSnapshotIdentity)
    (artifacts : later.artifacts = stored.artifacts)
    (vectors : ∀ chunkId vector,
      stored.vectors.get? chunkId = some vector →
        later.vectors.get? chunkId = some vector) :
    repository.Extends after := by
  intro other held foundHeld
  rw [changed, Dict.get?_set]
  split_ifs with same
  · subst same
    obtain rfl := Option.some.inj (found.symm.trans foundHeld)
    exact ⟨later, rfl, identity, artifacts, vectors⟩
  · exact ⟨held, foundHeld, rfl, rfl, fun _ _ kept => kept⟩

theorem persistBatch_extends {pairs : List (String × List PyFloat)}
    {result : Except PyException Unit}
    (persisted : repository.persistBatch snapshotId pairs = (result, after)) :
    repository.Extends after := by
  rcases persistBatch_spec persisted with same |
    ⟨stored, later, found, -, changed, persisted⟩
  · intro other held foundHeld
    exact ⟨held, same ▸ foundHeld, rfl, rfl, fun _ _ kept => kept⟩
  · obtain ⟨snapshot, artifacts, kept, -⟩ := persistVectors_spec persisted
    exact extends_of_set found changed (congrArg _ snapshot) artifacts kept

/-- Persisting keeps the repository sound when the vectors answer a call that
has been made. -/
theorem Sound.persistBatch {pairs : List (String × List PyFloat)}
    {result : Except PyException Unit}
    (sound : repository.Sound libraries calls)
    (answered : ∀ stored, repository.stored.get? snapshotId = some stored →
      ∀ pair ∈ pairs, ∃ chunk,
        stored.artifacts.get? pair.1 = some chunk ∧
          ∃ call ∈ calls, call.Answers libraries snapshotId chunk pair.2)
    (persisted : repository.persistBatch snapshotId pairs = (result, after)) :
    after.Sound libraries calls := by
  rcases persistBatch_spec persisted with same |
    ⟨stored, later, found, incomplete, changed, persisted⟩
  · intro other held foundHeld
    exact sound other held (same ▸ foundHeld)
  · obtain ⟨snapshot, artifacts, -, added⟩ := persistVectors_spec persisted
    intro other held foundHeld
    rw [changed, Dict.get?_set] at foundHeld
    split_ifs at foundHeld with same
    · subst same
      obtain rfl := Option.some.inj foundHeld
      have held := sound snapshotId stored found
      refine
        { named := snapshot ▸ held.named
          counted := by rw [artifacts, snapshot, held.counted]
          keyed := artifacts ▸ held.keyed
          answered := ?_
          exact := ?_ }
      · intro chunkId vector given
        rw [artifacts]
        rcases added chunkId vector given with before | inside
        · exact held.answered chunkId vector before
        · exact answered stored found _ inside
      · intro complete
        rw [snapshot, incomplete] at complete
        cases complete
    · exact sound other held foundHeld

/-- Finalizing keeps everything but the mark of completion, and sets it when
each chunk has its vector. -/
theorem finalizeSnapshot_spec {result : Except PyException EmbeddingSnapshot}
    (finalized : repository.finalizeSnapshot libraries snapshotId =
      (result, after)) :
    after.stored = repository.stored ∨
      ∃ stored completed, repository.stored.get? snapshotId = some stored ∧
        stored.vectors.keys.toFinset = stored.artifacts.keys.toFinset ∧
          completed.toSnapshotIdentity =
              stored.snapshot.toSnapshotIdentity ∧
            after.stored = repository.stored.set snapshotId
              { stored with snapshot := completed } := by
  unfold finalizeSnapshot at finalized
  dsimp only at finalized
  split at finalized
  · obtain ⟨-, rfl⟩ := Prod.mk.inj finalized
    exact .inl rfl
  · next stored required =>
      split_ifs at finalized with exact
      · obtain ⟨-, rfl⟩ := Prod.mk.inj finalized
        exact .inl rfl
      · obtain ⟨-, rfl⟩ := Prod.mk.inj finalized
        refine .inr ⟨stored, _, ?_, not_not.mp exact, ?_, rfl⟩
        · unfold requireSnapshot at required
          split at required
          · next found => exact found.trans (congrArg some
              (Except.ok.inj required))
          · cases required
        · rfl

theorem finalizeSnapshot_extends
    {result : Except PyException EmbeddingSnapshot}
    (finalized : repository.finalizeSnapshot libraries snapshotId =
      (result, after)) :
    repository.Extends after := by
  rcases finalizeSnapshot_spec finalized with same |
    ⟨stored, completed, found, -, identity, changed⟩
  · intro other held foundHeld
    exact ⟨held, same ▸ foundHeld, rfl, rfl, fun _ _ kept => kept⟩
  · exact extends_of_set found changed identity rfl fun _ _ kept => kept

theorem finalizeSnapshot_of_ne
    {result : Except PyException EmbeddingSnapshot}
    (finalized : repository.finalizeSnapshot libraries snapshotId =
      (result, after)) {other : String} (different : other ≠ snapshotId) :
    after.stored.get? other = repository.stored.get? other := by
  rcases finalizeSnapshot_spec finalized with same |
    ⟨_, _, -, -, -, changed⟩
  · rw [same]
  · rw [changed, Dict.get?_set_of_ne _ _ different.symm]

theorem Sound.finalizeSnapshot
    {result : Except PyException EmbeddingSnapshot}
    (sound : repository.Sound libraries calls)
    (finalized : repository.finalizeSnapshot libraries snapshotId =
      (result, after)) :
    after.Sound libraries calls := by
  rcases finalizeSnapshot_spec finalized with same |
    ⟨stored, completed, found, exact, identity, changed⟩
  · intro other held foundHeld
    exact sound other held (same ▸ foundHeld)
  · intro other held foundHeld
    rw [changed, Dict.get?_set] at foundHeld
    split_ifs at foundHeld with same
    · subst same
      obtain rfl := Option.some.inj foundHeld
      have held := sound snapshotId stored found
      exact
        { named := (congrArg SnapshotIdentity.snapshotId identity).trans
            held.named
          counted := held.counted.trans
            (congrArg SnapshotIdentity.expectedChunkCount identity).symm
          keyed := held.keyed
          answered := held.answered
          exact := fun _ => exact }
    · exact sound other held foundHeld

/-- Persisting does not touch complete snapshots. -/
theorem persistBatch_frozen {pairs : List (String × List PyFloat)}
    {result : Except PyException Unit}
    (persisted : repository.persistBatch snapshotId pairs = (result, after))
    {other : String} {held : StoredSnapshot}
    (foundHeld : repository.stored.get? other = some held)
    (complete : held.snapshot.complete = true) :
    after.stored.get? other = some held := by
  rcases persistBatch_spec persisted with same |
    ⟨stored, later, found, incomplete, changed, -⟩
  · exact same ▸ foundHeld
  · have different : snapshotId ≠ other := by
      rintro rfl
      obtain rfl := Option.some.inj (found.symm.trans foundHeld)
      rw [incomplete] at complete
      cases complete
    rw [changed, Dict.get?_set_of_ne _ _ different]
    exact foundHeld

/-- Only chunks of the batch receive a vector. -/
theorem persistBatch_vector? {pairs : List (String × List PyFloat)}
    {result : Except PyException Unit}
    (persisted : repository.persistBatch snapshotId pairs = (result, after))
    {chunkId : String} (missing : repository.vector? snapshotId chunkId = none)
    (outside : chunkId ∉ pairs.map Prod.fst) :
    after.vector? snapshotId chunkId = none := by
  unfold vector?
  rcases persistBatch_spec persisted with same |
    ⟨stored, later, found, -, changed, persisted⟩
  · rw [same]
    exact missing
  · obtain ⟨-, -, -, added⟩ := persistVectors_spec persisted
    rw [changed, Dict.get?_set_self, Option.bind_some]
    rw [vector?, found, Option.bind_some] at missing
    refine Option.eq_none_iff_forall_ne_some.mpr fun vector given => ?_
    rcases added chunkId vector given with before | inside
    · rw [missing] at before
      cases before
    · exact outside (List.mem_map.mpr ⟨_, inside, rfl⟩)

end MemoryEmbeddingRepository

/-! ## Sending the batches -/

section Responses

variable {libraries : EmbeddingLibraries}

/-- An accepted response has one vector for each text. -/
theorem validateResponse_ok {response : EmbedResponse} {count : ℕ}
    {dimension : ℤ} {modelId : String} {vectors : List (List PyFloat)}
    (accepted : validateResponse libraries response count dimension modelId =
      .ok vectors) :
    vectors = response.embeddings.map (unitVector libraries) := by
  obtain ⟨⟨⟩, -, accepted⟩ := bind_eq_ok.mp accepted
  obtain ⟨⟨⟩, -, accepted⟩ := bind_eq_ok.mp accepted
  have related := mapM_eq_ok.mp accepted
  refine List.forall₂_eq_eq_eq ▸ ?_
  rw [List.forall₂_map_right_iff]
  refine (related.imp fun embedding vector validated => ?_).flip
  obtain ⟨⟨⟩, -, validated⟩ := bind_eq_ok.mp validated
  obtain ⟨⟨⟩, -, validated⟩ := bind_eq_ok.mp validated
  obtain ⟨⟨⟩, -, validated⟩ := bind_eq_ok.mp validated
  exact (Except.ok.inj validated).symm

end Responses

/-- What the loop over the batches leaves behind. -/
structure EmbeddingService.Sends (libraries : EmbeddingLibraries)
    (service : EmbeddingService) (snapshot : EmbeddingSnapshot)
    (earlier : List EmbedCall) (before : MemoryEmbeddingRepository)
    (batches : List (List ChunkEmbeddingInput)) (calls : List EmbedCall)
    (after : MemoryEmbeddingRepository) : Prop where
  sound : after.Sound libraries (earlier ++ calls)
  kept : before.Extends after
  inOrder : calls.map EmbedCall.batch <+: batches
  unsent : ∀ call ∈ calls,
    before.Extends call.repository ∧ call.repository.Extends after ∧
      ∀ chunk ∈ call.batch, call.repository.vector?
        snapshot.snapshotId chunk.chunkId = none
  requested : ∀ call ∈ calls,
    call.snapshotId = snapshot.snapshotId ∧
      call.request = service.embedRequest snapshot call.batch
  frozen : ∀ snapshotId stored,
    before.stored.get? snapshotId = some stored →
      stored.snapshot.complete = true →
        after.stored.get? snapshotId = some stored

namespace EmbeddingService

variable {libraries : EmbeddingLibraries} {service : EmbeddingService}
  {snapshot : EmbeddingSnapshot} {calls : List EmbedCall}
  {repository : MemoryEmbeddingRepository}

/-- The vectors of a response answer its call. -/
theorem answers_of_validated {call : EmbedCall} {response : EmbedResponse}
    {vectors : List (List PyFloat)}
    (named : call.snapshotId = snapshot.snapshotId)
    (requested : call.request = service.embedRequest snapshot call.batch)
    (responded : call.response = .ok response)
    (validated : vectors =
      response.embeddings.map (unitVector libraries))
    {pair : String × List PyFloat}
    (member : pair ∈
      (call.batch.map ChunkEmbeddingInput.chunkId).zip vectors) :
    ∃ chunk ∈ call.batch, pair.1 = chunk.chunkId ∧
      call.Answers libraries snapshot.snapshotId chunk pair.2 := by
  obtain ⟨index, at_index⟩ := List.mem_iff_getElem?.mp member
  obtain ⟨left, right⟩ := List.getElem?_zip_eq_some.mp at_index
  rw [List.getElem?_map] at left
  obtain ⟨chunk, positioned, identified⟩ := Option.map_eq_some_iff.mp left
  rw [validated, List.getElem?_map] at right
  obtain ⟨embedding, answered, normalized⟩ := Option.map_eq_some_iff.mp right
  refine ⟨chunk, List.mem_of_getElem? positioned, identified.symm, named,
    index, response, embedding, positioned, ?_, responded, answered,
    normalized.symm⟩
  rw [requested]
  change (call.batch.map _)[index]? = _
  rw [List.getElem?_map, positioned]
  rfl

private theorem zip_keys_subset {α β : Type} {keys : List α}
    {values : List β} {key : α}
    (member : key ∈ (keys.zip values).map Prod.fst) : key ∈ keys := by
  obtain ⟨⟨first, second⟩, paired, rfl⟩ := List.mem_map.mp member
  exact (List.of_mem_zip paired).1

/-- The loop, by induction on the batches that are left. -/
theorem embedBatches_sends {gateway : EmbedGateway}
    {batches : List (List ChunkEmbeddingInput)} {number : ℕ}
    (sound : repository.Sound libraries calls)
    (registered : ∃ stored,
      repository.stored.get? snapshot.snapshotId = some stored ∧
        ∀ batch ∈ batches, ∀ chunk ∈ batch,
          stored.artifacts.get? chunk.chunkId = some chunk)
    (missing : ∀ batch ∈ batches, ∀ chunk ∈ batch,
      repository.vector? snapshot.snapshotId chunk.chunkId = none)
    (distinct : (batches.flatten.map ChunkEmbeddingInput.chunkId).Nodup) :
    service.Sends libraries snapshot calls repository batches
      (service.embedBatches libraries gateway snapshot batches number
        repository).calls
      (service.embedBatches libraries gateway snapshot batches number
        repository).repository := by
  induction batches generalizing number repository calls with
  | nil =>
      exact
        { sound := sound.mono []
          kept := .refl _
          inOrder := List.nil_prefix
          unsent := List.forall_mem_nil _
          requested := List.forall_mem_nil _
          frozen := fun _ _ found _ => found }
  | cons batch rest induction =>
      obtain ⟨stored, found, artifacts⟩ := registered
      let request := service.embedRequest snapshot batch
      let call : EmbedCall :=
        { snapshotId := snapshot.snapshotId
          batch := batch
          request := request
          response := gateway number request
          repository := repository }
      have fresh : ∀ chunk ∈ batch, call.repository.vector?
          snapshot.snapshotId chunk.chunkId = none :=
        missing batch List.mem_cons_self
      rw [embedBatches]
      dsimp only
      split
      · exact
          { sound := sound.mono [call]
            kept := .refl _
            inOrder := List.prefix_append [batch] rest
            unsent := List.forall_mem_singleton.mpr
              ⟨.refl _, .refl _, fresh⟩
            requested := List.forall_mem_singleton.mpr ⟨rfl, rfl⟩
            frozen := fun _ _ found _ => found }
      · next vectors validated =>
          obtain ⟨response, responded, validated⟩ :=
            bind_eq_ok.mp validated
          have answered := validateResponse_ok validated
          have requested : call.request =
              service.embedRequest snapshot call.batch := rfl
          have answers : ∀ held,
              repository.stored.get? snapshot.snapshotId = some held →
              ∀ pair ∈ (batch.map ChunkEmbeddingInput.chunkId).zip vectors,
                ∃ chunk, held.artifacts.get? pair.1 = some chunk ∧
                  ∃ made ∈ calls ++ [call],
                    made.Answers libraries snapshot.snapshotId chunk
                      pair.2 := by
            intro held foundHeld pair member
            obtain rfl := Option.some.inj (found.symm.trans foundHeld)
            obtain ⟨chunk, inside, identified, answer⟩ :=
              answers_of_validated rfl requested responded answered member
            refine ⟨chunk, ?_, call, by simp, answer⟩
            rw [identified]
            exact artifacts batch List.mem_cons_self chunk inside
          split
          · next error after persisted =>
              have kept := MemoryEmbeddingRepository.persistBatch_extends
                persisted
              exact
                { sound := (sound.mono [call]).persistBatch answers persisted
                  kept := kept
                  inOrder := List.prefix_append [batch] rest
                  unsent := List.forall_mem_singleton.mpr
                    ⟨.refl _, kept, fresh⟩
                  requested := List.forall_mem_singleton.mpr ⟨rfl, rfl⟩
                  frozen := fun _ _ found complete =>
                    MemoryEmbeddingRepository.persistBatch_frozen persisted
                      found complete }
          · next after persisted =>
              have kept := MemoryEmbeddingRepository.persistBatch_extends
                persisted
              obtain ⟨held, foundHeld, -, sameArtifacts, -⟩ :=
                kept _ stored found
              rw [List.flatten_cons, List.map_append] at distinct
              obtain ⟨-, distinctRest, disjoint⟩ :=
                List.nodup_append'.mp distinct
              have later := @induction (calls ++ [call]) after (number + 1)
                ((sound.mono [call]).persistBatch answers persisted)
                ⟨held, foundHeld, fun other inRest chunk inside =>
                  sameArtifacts ▸ artifacts other
                    (List.mem_cons_of_mem _ inRest) chunk inside⟩
                (fun other inRest chunk inside =>
                  MemoryEmbeddingRepository.persistBatch_vector? persisted
                    (missing other (List.mem_cons_of_mem _ inRest) chunk
                      inside)
                    fun among => disjoint
                      (zip_keys_subset among)
                      (List.mem_map.mpr ⟨chunk, List.mem_flatten.mpr
                        ⟨other, inRest, inside⟩, rfl⟩))
                distinctRest
              refine
                { sound := ?_
                  kept := kept.trans later.kept
                  inOrder := List.cons_prefix_cons.mpr ⟨rfl, later.inOrder⟩
                  unsent := List.forall_mem_cons.mpr
                    ⟨⟨.refl _, kept.trans later.kept, fresh⟩,
                      fun made member => ?_⟩
                  requested := List.forall_mem_cons.mpr
                    ⟨⟨rfl, rfl⟩, later.requested⟩
                  frozen := fun other held found complete =>
                    later.frozen other held
                      (MemoryEmbeddingRepository.persistBatch_frozen
                        persisted found complete) complete }
              · have joined := later.sound
                rw [List.append_assoc] at joined
                exact joined
              · obtain ⟨before, afterwards, unsent⟩ :=
                  later.unsent made member
                exact ⟨kept.trans before, afterwards, unsent⟩

end EmbeddingService

/-! ## Opening a snapshot -/

section Opening

variable {libraries : EmbeddingLibraries} {snapshot stored : EmbeddingSnapshot}
  {chunks : List ChunkEmbeddingInput} {calls : List EmbedCall}
  {repository after : MemoryEmbeddingRepository}

theorem artifactsOf_get?
    (distinct : (chunks.map ChunkEmbeddingInput.chunkId).Nodup)
    {chunkId : String} {chunk : ChunkEmbeddingInput} :
    (MemoryEmbeddingRepository.artifactsOf chunks).get? chunkId =
        some chunk ↔ chunk ∈ chunks ∧ chunk.chunkId = chunkId := by
  have keys : ((chunks.map fun chunk => (chunk.chunkId, chunk)).map
      Prod.fst).Nodup := by
    rw [List.map_map]
    exact distinct
  rw [Dict.get?_eq_some_iff, MemoryEmbeddingRepository.artifactsOf,
    Dict.entries_ofList keys, List.mem_map]
  constructor
  · rintro ⟨other, member, same⟩
    obtain ⟨rfl, rfl⟩ := Prod.mk.inj same
    exact ⟨member, rfl⟩
  · rintro ⟨member, rfl⟩
    exact ⟨chunk, member, rfl⟩

theorem artifactsOf_keys
    (distinct : (chunks.map ChunkEmbeddingInput.chunkId).Nodup) :
    (MemoryEmbeddingRepository.artifactsOf chunks).keys =
      chunks.map ChunkEmbeddingInput.chunkId := by
  have keys : ((chunks.map fun chunk => (chunk.chunkId, chunk)).map
      Prod.fst).Nodup := by
    rw [List.map_map]
    exact distinct
  rw [Dict.keys, MemoryEmbeddingRepository.artifactsOf,
    Dict.entries_ofList keys, List.map_map]
  rfl

/-- An opened snapshot was registered with these chunks, or is registered
now, without vectors. -/
theorem openSnapshot_spec
    (opened : EmbeddingService.openSnapshot libraries repository snapshot
      chunks = .ok (stored, after)) :
    chunks.length = snapshot.expectedChunkCount ∧
      (chunks.map ChunkEmbeddingInput.chunkId).Nodup ∧
        ((∃ held,
            repository.stored.get? snapshot.snapshotId = some held ∧
              held.artifacts.Agrees
                  (MemoryEmbeddingRepository.artifactsOf chunks) ∧
                stored = held.snapshot ∧ after = repository) ∨
          repository.stored.get? snapshot.snapshotId = none ∧
            stored = snapshot ∧
              after =
                { repository with
                  stored := repository.stored.set snapshot.snapshotId
                    { snapshot := snapshot
                      vectors := .empty
                      artifacts :=
                        MemoryEmbeddingRepository.artifactsOf chunks } }) := by
  obtain ⟨⟨⟩, counted, opened⟩ := bind_eq_ok.mp opened
  obtain ⟨⟨⟩, distinct, opened⟩ := bind_eq_ok.mp opened
  obtain ⟨⟨⟩, -, created⟩ := bind_eq_ok.mp opened
  obtain ⟨-, created⟩ := MemoryEmbeddingRepository.createSnapshot_ok.mp created
  refine ⟨not_not.mp (raiseIf_eq_ok.mp counted),
    not_not.mp (raiseIf_eq_ok.mp distinct), ?_⟩
  rcases created with ⟨held, found, -, agrees, same, kept⟩ | fresh
  · exact .inl ⟨held, found, agrees, same, kept⟩
  · exact .inr fresh

theorem openSnapshot_registered
    (opened : EmbeddingService.openSnapshot libraries repository snapshot
      chunks = .ok (stored, after)) :
    ∃ held, after.stored.get? snapshot.snapshotId = some held ∧
      held.snapshot = stored ∧ ∀ chunk ∈ chunks,
        held.artifacts.get? chunk.chunkId = some chunk := by
  obtain ⟨-, distinct, created⟩ := openSnapshot_spec opened
  have listed : ∀ chunk ∈ chunks,
      (MemoryEmbeddingRepository.artifactsOf chunks).get? chunk.chunkId =
        some chunk :=
    fun chunk member => (artifactsOf_get? distinct).mpr ⟨member, rfl⟩
  rcases created with ⟨held, found, agrees, rfl, rfl⟩ | ⟨-, rfl, rfl⟩
  · refine ⟨held, found, rfl, fun chunk member => ?_⟩
    rw [Dict.agrees_iff.mp agrees]
    exact listed chunk member
  · exact ⟨_, Dict.get?_set_self _ _ _, rfl, listed⟩

/-- Opening stores no vector. -/
theorem openSnapshot_vector?
    (opened : EmbeddingService.openSnapshot libraries repository snapshot
      chunks = .ok (stored, after)) (snapshotId chunkId : String) :
    after.vector? snapshotId chunkId =
      repository.vector? snapshotId chunkId := by
  obtain ⟨-, -, created⟩ := openSnapshot_spec opened
  rcases created with ⟨held, found, -, -, rfl⟩ | ⟨missing, -, rfl⟩
  · rfl
  · unfold MemoryEmbeddingRepository.vector?
    rw [Dict.get?_set]
    split_ifs with same
    · subst same
      rw [missing]
      rfl
    · rfl

theorem openSnapshot_frozen
    (opened : EmbeddingService.openSnapshot libraries repository snapshot
      chunks = .ok (stored, after)) {snapshotId : String}
    {held : StoredSnapshot}
    (found : repository.stored.get? snapshotId = some held) :
    after.stored.get? snapshotId = some held := by
  obtain ⟨-, -, created⟩ := openSnapshot_spec opened
  rcases created with ⟨_, -, -, -, rfl⟩ | ⟨missing, -, rfl⟩
  · exact found
  · have different : snapshot.snapshotId ≠ snapshotId := by
      rintro rfl
      rw [missing] at found
      cases found
    exact (Dict.get?_set_of_ne _ _ different).trans found

theorem openSnapshot_extends
    (opened : EmbeddingService.openSnapshot libraries repository snapshot
      chunks = .ok (stored, after)) : repository.Extends after :=
  fun _ held found => ⟨held, openSnapshot_frozen opened found, rfl, rfl,
    fun _ _ kept => kept⟩

/-- A snapshot that is registered incomplete is sound. -/
theorem MemoryEmbeddingRepository.Sound.openSnapshot
    (sound : repository.Sound libraries calls)
    (incomplete : snapshot.complete = false)
    (opened : EmbeddingService.openSnapshot libraries repository snapshot
      chunks = .ok (stored, after)) : after.Sound libraries calls := by
  obtain ⟨counted, distinct, created⟩ := openSnapshot_spec opened
  rcases created with ⟨_, -, -, -, rfl⟩ | ⟨-, rfl, rfl⟩
  · exact sound
  · intro other held foundHeld
    rw [Dict.get?_set] at foundHeld
    split_ifs at foundHeld with same
    · subst same
      obtain rfl := Option.some.inj foundHeld
      exact
        { named := rfl
          counted := by
            rw [artifactsOf_keys distinct, List.length_map]
            exact counted
          keyed := fun chunkId chunk registered =>
            ((artifactsOf_get? distinct).mp registered).2
          answered := fun chunkId vector given => by cases given
          exact := fun complete => by
            rw [incomplete] at complete
            cases complete }
    · exact sound other held foundHeld

/-- The chunks to send are those without a vector. -/
theorem missingBatches_eq {service : EmbeddingService}
    {held : StoredSnapshot} {snapshotId : String}
    (found : repository.stored.get? snapshotId = some held) :
    service.missingBatches repository snapshotId chunks =
      service.batches (chunks.filter fun chunk =>
        repository.vector? snapshotId chunk.chunkId = none) := by
  unfold EmbeddingService.missingBatches
    MemoryEmbeddingRepository.completedChunkIds
    MemoryEmbeddingRepository.requireSnapshot
  rw [found]
  change service.batches _ = _
  congr 1
  refine List.filter_congr fun chunk _ => ?_
  rw [MemoryEmbeddingRepository.vector?, found, Option.bind_some,
    decide_eq_decide, List.mem_toFinset]
  exact Dict.lookup_eq_none_iff.symm

end Opening

/-! ## An attempt -/

namespace EmbedAttempt

variable {libraries : EmbeddingLibraries} {attempt : EmbedAttempt}
  {repository : MemoryEmbeddingRepository} {calls : List EmbedCall}

/-- An attempt that makes no call. -/
theorem resumes_of_silent {outcome : EmbedOutcome EmbeddingSnapshot}
    (silent : outcome.calls = [])
    (kept : repository.Extends outcome.repository)
    (frozen : ∀ snapshotId stored,
      repository.stored.get? snapshotId = some stored →
        outcome.repository.stored.get? snapshotId = some stored)
    (limited : ∀ chunk ∈ attempt.missing repository,
      attempt.service.maxBatchTokens < chunk.tokenCount →
        ∃ error, outcome.result = .error error) :
    attempt.Resumes libraries repository outcome :=
  { kept := kept
    unsent := by simp [silent]
    requested := by simp [silent]
    planned := fun batches accepted => by
      obtain ⟨joined, fits⟩ := EmbeddingService.batches_spec accepted
      refine ⟨joined, fits, ?_⟩
      rw [silent]
      exact List.nil_prefix
    unplanned := fun _ _ => silent
    limited := fun chunk member large =>
      ⟨silent, limited chunk member large⟩
    frozen := fun snapshotId stored found _ =>
      frozen snapshotId stored found }

theorem finishEmbedding_spec (snapshotId : String) (sent : EmbedOutcome Unit) :
    (EmbeddingService.finishEmbedding libraries snapshotId sent).calls =
        sent.calls ∧
      ((EmbeddingService.finishEmbedding libraries snapshotId
          sent).repository = sent.repository ∨
        ∃ result, sent.repository.finalizeSnapshot libraries snapshotId =
          (result, (EmbeddingService.finishEmbedding libraries snapshotId
            sent).repository)) := by
  unfold EmbeddingService.finishEmbedding
  split
  · exact ⟨rfl, .inl rfl⟩
  · exact ⟨rfl, .inr ⟨_, rfl⟩⟩

/-- An attempt that plans batches. -/
theorem perform_sends {opened : MemoryEmbeddingRepository}
    {held : StoredSnapshot} {batches : List (List ChunkEmbeddingInput)}
    (sound : opened.Sound libraries calls)
    (found : opened.stored.get? attempt.snapshot.snapshotId = some held)
    (artifacts : ∀ chunk ∈ attempt.chunks,
      held.artifacts.get? chunk.chunkId = some chunk)
    (distinct : (attempt.chunks.map ChunkEmbeddingInput.chunkId).Nodup)
    (extended : repository.Extends opened)
    (same : ∀ snapshotId chunkId, opened.vector? snapshotId chunkId =
      repository.vector? snapshotId chunkId)
    (unchanged : ∀ snapshotId stored,
      repository.stored.get? snapshotId = some stored →
        opened.stored.get? snapshotId = some stored)
    (incomplete : held.snapshot.complete = false)
    (planned : attempt.service.batches (attempt.missing repository) =
      .ok batches) :
    let outcome := EmbeddingService.finishEmbedding libraries
      attempt.snapshot.snapshotId
      (attempt.service.embedBatches libraries attempt.gateway
        attempt.snapshot batches 0 opened)
    attempt.Resumes libraries repository outcome ∧
      outcome.repository.Sound libraries (calls ++ outcome.calls) := by
  obtain ⟨joined, fits⟩ := EmbeddingService.batches_spec planned
  have listed : ∀ batch ∈ batches, ∀ chunk ∈ batch,
      chunk ∈ attempt.missing repository := fun batch inside chunk member =>
    joined ▸ List.mem_flatten.mpr ⟨batch, inside, member⟩
  have sends := @EmbeddingService.embedBatches_sends libraries
    attempt.service attempt.snapshot calls opened attempt.gateway batches 0
    sound
    ⟨held, found, fun batch inside chunk member => artifacts chunk
      (List.mem_filter.mp (listed batch inside chunk member)).1⟩
    (fun batch inside chunk member => (same _ _).trans (of_decide_eq_true
      (List.mem_filter.mp (listed batch inside chunk member)).2))
    (joined ▸ distinct.sublist (List.filter_sublist.map _))
  set sent := attempt.service.embedBatches libraries attempt.gateway
    attempt.snapshot batches 0 opened
  obtain ⟨sameCalls, closed⟩ := @finishEmbedding_spec libraries
    attempt.snapshot.snapshotId sent
  set outcome := EmbeddingService.finishEmbedding libraries
    attempt.snapshot.snapshotId sent
  have finalized : sent.repository.Extends outcome.repository ∧
      outcome.repository.Sound libraries (calls ++ sent.calls) ∧
        ∀ other ≠ attempt.snapshot.snapshotId,
          outcome.repository.stored.get? other =
            sent.repository.stored.get? other := by
    rcases closed with unfinished | ⟨result, finalized⟩
    · rw [unfinished]
      exact ⟨.refl _, sends.sound, fun _ _ => rfl⟩
    · exact ⟨MemoryEmbeddingRepository.finalizeSnapshot_extends finalized,
        sends.sound.finalizeSnapshot finalized,
        fun _ => MemoryEmbeddingRepository.finalizeSnapshot_of_ne finalized⟩
  obtain ⟨final, finalSound, others⟩ := finalized
  refine ⟨?_, sameCalls ▸ finalSound⟩
  refine
    { kept := extended.trans (sends.kept.trans final)
      unsent := fun call made => ?_
      requested := fun call made => ?_
      planned := fun other again => ?_
      unplanned := fun error refused => ?_
      limited := fun chunk member large => ?_
      frozen := fun other stored before complete => ?_ }
  · obtain ⟨before, after, unsent⟩ := sends.unsent call (sameCalls ▸ made)
    exact ⟨extended.trans before, after.trans final, unsent⟩
  · rw [sameCalls] at made
    obtain ⟨named, requested⟩ := sends.requested call made
    exact ⟨named, fits _ (sends.inOrder.subset
      (List.mem_map_of_mem made)), requested⟩
  · obtain rfl := Except.ok.inj (planned.symm.trans again)
    exact ⟨joined, fits, sameCalls ▸ sends.inOrder⟩
  · rw [planned] at refused
    cases refused
  · rw [EmbeddingService.batches_large member large] at planned
    cases planned
  · have here := unchanged other stored before
    have different : other ≠ attempt.snapshot.snapshotId := by
      rintro rfl
      obtain rfl := Option.some.inj (found.symm.trans here)
      rw [incomplete] at complete
      cases complete
    rw [others other different]
    exact sends.frozen other stored here complete

/-- An attempt on a sound repository. -/
theorem perform_resumes (sound : repository.Sound libraries calls)
    (incomplete : attempt.snapshot.complete = false) :
    attempt.Resumes libraries repository
        (attempt.perform libraries repository) ∧
      (attempt.perform libraries repository).repository.Sound libraries
        (calls ++ (attempt.perform libraries repository).calls) := by
  unfold perform EmbeddingService.embedChunks
  split
  · next error refused =>
      exact ⟨resumes_of_silent rfl (.refl _) (fun _ _ found => found)
        fun _ _ _ => ⟨error, rfl⟩, sound.mono []⟩
  · next stored opened accepted =>
      have openedSound := sound.openSnapshot incomplete accepted
      have extended := openSnapshot_extends accepted
      obtain ⟨-, distinct, -⟩ := openSnapshot_spec accepted
      obtain ⟨held, found, rfl, artifacts⟩ := openSnapshot_registered accepted
      have planning : attempt.service.missingBatches opened
          attempt.snapshot.snapshotId attempt.chunks =
            attempt.service.batches (attempt.missing repository) := by
        rw [missingBatches_eq found]
        simp only [openSnapshot_vector? accepted, missing]
      split_ifs with complete
      · refine ⟨resumes_of_silent rfl extended
          (fun _ _ => openSnapshot_frozen accepted) ?_, openedSound.mono []⟩
        intro chunk member _
        obtain ⟨inside, unsent⟩ := List.mem_filter.mp member
        have stored := (openedSound _ held found).exact complete
        have registered : chunk.chunkId ∈ held.vectors.keys := by
          rw [← List.mem_toFinset, stored, List.mem_toFinset]
          exact List.mem_map.mpr ⟨_,
            (Dict.get?_eq_some_iff _).mp (artifacts chunk inside), rfl⟩
        rw [decide_eq_true_eq, ← openSnapshot_vector? accepted,
          MemoryEmbeddingRepository.vector?, found, Option.bind_some]
          at unsent
        exact absurd registered (Dict.lookup_eq_none_iff.mp unsent)
      · rw [planning]
        split
        · next error refused =>
            exact ⟨resumes_of_silent rfl extended
              (fun _ _ => openSnapshot_frozen accepted)
              fun _ _ _ => ⟨error, rfl⟩, openedSound.mono []⟩
        · next batches planned =>
            exact perform_sends openedSound found artifacts distinct extended
              (openSnapshot_vector? accepted)
              (fun _ _ => openSnapshot_frozen accepted)
              (Bool.eq_false_iff.mpr complete) planned

/-- A chunk over the limit of this attempt and of all the earlier ones is
refused before any call, missing or not. -/
theorem perform_refuses (sound : repository.Sound libraries calls)
    (incomplete : attempt.snapshot.complete = false)
    {chunk : ChunkEmbeddingInput} (member : chunk ∈ attempt.chunks)
    (large : attempt.service.maxBatchTokens < chunk.tokenCount)
    (unsent : ∀ call ∈ calls, chunk ∉ call.batch) :
    (attempt.perform libraries repository).calls = [] ∧
      ∃ error, (attempt.perform libraries repository).result =
        .error error := by
  cases accepted : EmbeddingService.openSnapshot libraries repository
      attempt.snapshot attempt.chunks with
  | error error =>
      unfold perform EmbeddingService.embedChunks
      rw [accepted]
      exact ⟨rfl, error, rfl⟩
  | ok opened =>
      obtain ⟨resumes, -⟩ := perform_resumes sound incomplete
      refine resumes.limited chunk (List.mem_filter.mpr
        ⟨member, decide_eq_true ?_⟩) large
      obtain ⟨held, found, -, artifacts⟩ := openSnapshot_registered accepted
      rw [← openSnapshot_vector? accepted, MemoryEmbeddingRepository.vector?,
        found, Option.bind_some]
      refine Option.eq_none_iff_forall_ne_some.mpr fun vector stored => ?_
      obtain ⟨other, registered, call, made, -, index, -, -, positioned, -⟩ :=
        (sound.openSnapshot incomplete accepted _ held found).answered _ _
          stored
      obtain rfl :=
        Option.some.inj ((artifacts chunk member).symm.trans registered)
      exact unsent call made (List.mem_of_getElem? positioned)

end EmbedAttempt

theorem EmbeddingService.Fits.tokenCount_le {service : EmbeddingService}
    {batch : List ChunkEmbeddingInput} (fits : service.Fits batch)
    {chunk : ChunkEmbeddingInput} (member : chunk ∈ batch) :
    chunk.tokenCount ≤ service.maxBatchTokens := by
  refine le_trans ?_ fits.tokens
  refine List.single_le_sum ?_ _ (List.mem_map_of_mem member)
  intro tokens inside
  obtain ⟨other, -, rfl⟩ := List.mem_map.mp inside
  exact other.tokensPositive.le

/-- Whatever attempts have been made for whatever snapshots: the repository is
sound, the next attempt resumes them, and it refuses a chunk over the limits of
all of them before it makes a call. -/
theorem embedding_attempts_resume {libraries : EmbeddingLibraries}
    {attempts : List EmbedAttempt} {history : EmbedHistory}
    (planned : ∀ attempt ∈ attempts, attempt.snapshot.complete = false)
    (run : Run (EmbedHistory.Continues libraries) .empty attempts history)
    (attempt : EmbedAttempt) (incomplete : attempt.snapshot.complete = false) :
    history.repository.Sound libraries history.calls ∧
      attempt.Resumes libraries history.repository
          (attempt.perform libraries history.repository) ∧
        ∀ chunk ∈ attempt.chunks,
          (∀ made ∈ attempts ++ [attempt],
            made.service.maxBatchTokens < chunk.tokenCount) →
            (attempt.perform libraries history.repository).calls = [] ∧
              ∃ error,
                (attempt.perform libraries history.repository).result =
                  .error error := by
  obtain ⟨sound, fitting⟩ := run.invariant
    (fun attempt => attempt.snapshot.complete = false) planned
    (fun attempts history =>
      history.repository.Sound libraries history.calls ∧
        ∀ call ∈ history.calls, ∃ made ∈ attempts,
          made.service.Fits call.batch)
    ⟨fun _ _ found => (by cases found), List.forall_mem_nil _⟩
    (by
      rintro attempts before attempt after ⟨sound, fitting⟩ incomplete
        ⟨moved, called⟩
      obtain ⟨resumes, kept⟩ := attempt.perform_resumes sound incomplete
      rw [← moved, ← called] at kept
      refine ⟨kept, fun call made => ?_⟩
      rw [called] at made
      rcases List.mem_append.mp made with earlier | now
      · obtain ⟨other, among, fits⟩ := fitting call earlier
        exact ⟨other, List.mem_append_left _ among, fits⟩
      · exact ⟨attempt, by simp, (resumes.requested call now).2.1⟩)
  refine ⟨sound, (EmbedAttempt.perform_resumes sound incomplete).1, ?_⟩
  intro chunk member large
  refine EmbedAttempt.perform_refuses sound incomplete member
    (large attempt (by simp)) fun call made inside => ?_
  obtain ⟨other, among, fits⟩ := fitting call made
  exact absurd (fits.tokenCount_le inside)
    (not_le.mpr (large other (List.mem_append_left _ among)))

/-! ## An interrupted attempt -/

def sampleChunk (chunkId : String) (named : chunkId ≠ "") :
    ChunkEmbeddingInput :=
  { chunkId := chunkId
    documentId := "document"
    content := chunkId
    tokenCount := 1
    contentSha256 := "hash"
    sourceMetadata := []
    identified := ⟨named, by decide, named⟩
    tokensPositive := by decide }

def sampleSnapshot : EmbeddingSnapshot :=
  { snapshotId := "7"
    corpusSnapshotId := "corpus"
    parseSnapshotId := "parse"
    chunkStrategy := "strategy"
    modelId := "passage"
    queryModelId := "query"
    dimension := 1
    normalization := "l2"
    expectedChunkCount := 2
    artifactManifestHash := String.ofList (List.replicate 64 'a')
    indexStrategy := "full-vector-hnsw"
    candidateFactor := 1
    createdAt := 0
    valid :=
      { identified := by decide
        planned := rfl
        digest := by decide
        normalized := rfl } }

/-- One chunk a batch; the gateway answers up to the given call. -/
theorem sampleChunk_named : "a" ≠ "" := by decide

def sampleAttempt (answered : ℕ) : EmbedAttempt :=
  { service :=
      { maxBatchItems := 1
        maxBatchTokens := 1
        supportsInputType := false
        limits_positive := by decide }
    gateway := fun number _ =>
      if number < answered then
        .ok
          { embeddings := [[.finite 1]]
            rawResponse := []
            modelId := some "passage" }
      else .error (.runtimeError "unavailable")
    snapshot := sampleSnapshot
    chunks := [sampleChunk "a" sampleChunk_named, sampleChunk "b" (by decide)] }

/-- After an attempt whose second call failed. -/
def interruptedHistory : EmbedHistory :=
  { repository :=
      ((sampleAttempt 1).perform sampleLibraries .empty).repository
    calls := ((sampleAttempt 1).perform sampleLibraries .empty).calls }

/-- The second attempt sends the other chunk and completes the snapshot. -/
theorem embedding_attempts_resume_interrupted :
    (interruptedHistory.calls.map fun call =>
        call.batch.map ChunkEmbeddingInput.chunkId) = [["a"], ["b"]] ∧
      (((sampleAttempt 2).perform sampleLibraries
        interruptedHistory.repository).calls.map fun call =>
          call.batch.map ChunkEmbeddingInput.chunkId) = [["b"]] ∧
        (((sampleAttempt 2).perform sampleLibraries
          interruptedHistory.repository).result.toOption.any
            EmbeddingSnapshot.complete) = true ∧
          (sampleAttempt 2).Resumes sampleLibraries
            interruptedHistory.repository
            ((sampleAttempt 2).perform sampleLibraries
              interruptedHistory.repository) := by
  refine ⟨by decide +kernel, by decide +kernel, by decide +kernel, ?_⟩
  have run : Run (EmbedHistory.Continues sampleLibraries) .empty
      [sampleAttempt 1] interruptedHistory := .single ⟨rfl, rfl⟩
  exact (embedding_attempts_resume (by simp [sampleAttempt, sampleSnapshot])
    run (sampleAttempt 2) rfl).2.1

end RagBench
