import RagBench.Embeddings.Resumption

/-!
# Batches of the memory repository

The loop of `persist_batch` checks a pair and stores it before it looks at the
next one.  A batch is all or nothing when all of its pairs go together, or when
the pairs before the first bad one are stored already.
-/

namespace RagBench

/-- The checks of a vector that do not look at the stored vectors. -/
structure StoredSnapshot.Storable (stored : StoredSnapshot)
    (pair : String × List PyFloat) : Prop where
  dimension : (pair.2.length : ℤ) = stored.snapshot.dimension
  registered : stored.artifacts.get? pair.1 ≠ none
  finite : ∀ value ∈ pair.2, value.isFinite = true
  nonzero : ∃ value ∈ pair.2, value.equals (.finite 0) = false

/-- The snapshot takes the vector. -/
structure StoredSnapshot.Accepts (stored : StoredSnapshot)
    (pair : String × List PyFloat) : Prop extends stored.Storable pair where
  kept : ∀ existing, stored.vectors.get? pair.1 = some existing →
    existing = pair.2

/-- The snapshot takes every pair, and no chunk has two vectors. -/
structure StoredSnapshot.AcceptsAll (stored : StoredSnapshot)
    (pairs : List (String × List PyFloat)) : Prop where
  accepts : ∀ pair ∈ pairs, stored.Accepts pair
  single : ∀ pair ∈ pairs, ∀ other ∈ pairs, pair.1 = other.1 →
    pair.2 = other.2

/-- A pair is refused, and all pairs before it are stored already. -/
def StoredSnapshot.RefusesFirst (stored : StoredSnapshot)
    (pairs : List (String × List PyFloat)) : Prop :=
  ∃ before refused after, pairs = before ++ refused :: after ∧
    (∀ pair ∈ before, stored.vectors.get? pair.1 = some pair.2) ∧
      ¬stored.Accepts refused

/-- The snapshot with one more vector. -/
def StoredSnapshot.storing (stored : StoredSnapshot)
    (pair : String × List PyFloat) : StoredSnapshot :=
  { stored with vectors := stored.vectors.set pair.1 pair.2 }

namespace MemoryEmbeddingRepository

/-- A batch that fails changes no vector, and one that succeeds is stored. -/
structure PersistsWhole (repository : MemoryEmbeddingRepository)
    (snapshotId : String) (pairs : List (String × List PyFloat)) : Prop where
  failed : ∀ error after,
    repository.persistBatch snapshotId pairs = (.error error, after) →
      ∀ other chunkId,
        after.vector? other chunkId = repository.vector? other chunkId
  stored : ∀ after,
    repository.persistBatch snapshotId pairs = (.ok (), after) →
      ∀ pair ∈ pairs, after.vector? snapshotId pair.1 = some pair.2

section Checks

variable {stored : StoredSnapshot} {chunkId : String} {vector : List PyFloat}

private theorem sameVector_of_finite
    (finite : ∀ value ∈ vector, value.isFinite = true) :
    sameVector vector vector = true := by
  unfold sameVector
  simp only [decide_true, Bool.true_and, List.all_eq_true]
  rintro ⟨left, right⟩ member
  obtain ⟨index, bound, same⟩ := List.mem_iff_getElem.mp member
  rw [List.getElem_zip] at same
  obtain ⟨rfl, rfl⟩ := Prod.mk.inj same
  have inside : index < vector.length := by simpa using bound
  have value := finite _ (List.getElem_mem inside)
  revert value
  cases vector[index] <;> simp [PyFloat.equals, PyFloat.isFinite]

/-- The checks of one pair. -/
theorem checkVector_ok :
    checkVector stored chunkId vector = .ok () ↔
      stored.Accepts (chunkId, vector) := by
  simp only [checkVector, bind_eq_ok, raiseIf_eq_ok, not_not]
  constructor
  · rintro ⟨-, dimension, -, compared, -, registered, valid⟩
    obtain ⟨finite, nonzero⟩ := not_or.mp valid
    refine ⟨⟨dimension, registered, ?_, ?_⟩, ?_⟩
    · intro value member
      by_contra infinite
      exact finite ⟨value, member, infinite⟩
    · by_contra zero
      apply nonzero
      intro value member
      by_contra other
      exact zero ⟨value, member, Bool.eq_false_iff.mpr other⟩
    · intro existing found
      apply sameVector_eq
      by_contra different
      exact compared ⟨existing, found, different⟩
  · rintro ⟨⟨dimension, registered, finite, ⟨value, member, nonzero⟩⟩, kept⟩
    refine ⟨(), dimension, (), ?_, (), registered, ?_⟩
    · rintro ⟨existing, found, different⟩
      rw [kept existing found] at different
      exact different (sameVector_of_finite finite)
    · rintro (⟨bad, inside, infinite⟩ | zero)
      · exact infinite (finite bad inside)
      · rw [zero value member] at nonzero
        cases nonzero

end Checks

section Loop

variable {stored later : StoredSnapshot}
  {pairs : List (String × List PyFloat)}

private theorem persistVectors_cons (stored : StoredSnapshot)
    (pair : String × List PyFloat) :
    (¬stored.Accepts pair ∧ ∃ error,
        persistVectors stored (pair :: pairs) = (.error error, stored)) ∨
      stored.Accepts pair ∧
        persistVectors stored (pair :: pairs) =
          persistVectors (stored.storing pair) pairs := by
  obtain ⟨chunkId, vector⟩ := pair
  cases checked : checkVector stored chunkId vector with
  | error error =>
      refine .inl ⟨fun accepted => ?_, error, ?_⟩
      · rw [checkVector_ok.mpr accepted] at checked
        cases checked
      · rw [persistVectors, checked]
  | ok value =>
      refine .inr ⟨checkVector_ok.mp checked, ?_⟩
      rw [persistVectors, checked]
      rfl

/-- One more pair goes with the others when these go with it stored. -/
private theorem acceptsAll_cons {pair : String × List PyFloat} :
    stored.AcceptsAll (pair :: pairs) ↔
      stored.Accepts pair ∧ (stored.storing pair).AcceptsAll pairs := by
  constructor
  · rintro ⟨accepts, single⟩
    refine ⟨accepts pair List.mem_cons_self, ⟨fun other member => ?_, ?_⟩⟩
    · have accepted := accepts other (List.mem_cons_of_mem _ member)
      refine ⟨⟨accepted.dimension, accepted.registered, accepted.finite,
        accepted.nonzero⟩, fun existing found => ?_⟩
      rw [StoredSnapshot.storing, Dict.get?_set] at found
      split_ifs at found with same
      · cases found
        exact single pair List.mem_cons_self other
          (List.mem_cons_of_mem _ member) same
      · exact accepted.kept existing found
    · intro first member second member'
      exact single first (List.mem_cons_of_mem _ member) second
        (List.mem_cons_of_mem _ member')
  · rintro ⟨accepted, accepts, single⟩
    have agrees : ∀ other ∈ pairs, pair.1 = other.1 → pair.2 = other.2 := by
      intro other member same
      apply (accepts other member).kept
      rw [StoredSnapshot.storing, Dict.get?_set, if_pos same]
    constructor
    · intro other member
      rcases List.mem_cons.mp member with rfl | later
      · exact accepted
      · have taken := accepts other later
        refine ⟨⟨taken.dimension, taken.registered, taken.finite,
          taken.nonzero⟩, fun existing found => ?_⟩
        by_cases same : pair.1 = other.1
        · rw [← agrees other later same]
          exact accepted.kept existing (same ▸ found)
        · apply taken.kept
          rw [StoredSnapshot.storing, Dict.get?_set, if_neg same]
          exact found
    · intro first member second member' same
      rcases List.mem_cons.mp member with rfl | later
      · rcases List.mem_cons.mp member' with rfl | later'
        · rfl
        · exact agrees second later' same
      · rcases List.mem_cons.mp member' with rfl | later'
        · exact (agrees first later same.symm).symm
        · exact single first later second later' same

/-- The loop succeeds when the pairs go together. -/
private theorem persistVectors_ok_iff :
    (persistVectors stored pairs).1 = .ok () ↔ stored.AcceptsAll pairs := by
  induction pairs generalizing stored with
  | nil =>
      refine ⟨fun _ => ⟨?_, ?_⟩, fun _ => rfl⟩
      all_goals simp
  | cons pair pairs induction =>
      rw [acceptsAll_cons]
      rcases persistVectors_cons stored pair with ⟨refused, error, failed⟩ |
        ⟨accepted, next⟩
      · rw [failed]
        simp [refused]
      · rw [next, induction]
        simp [accepted]

/-- A pair that is stored already does not count. -/
private theorem refusesFirst_cons {pair : String × List PyFloat} :
    stored.RefusesFirst (pair :: pairs) ↔
      ¬stored.Accepts pair ∨
        stored.vectors.get? pair.1 = some pair.2 ∧
          stored.RefusesFirst pairs := by
  constructor
  · rintro ⟨before, refused, after, same, held, bad⟩
    cases before with
    | nil =>
        obtain ⟨rfl, -⟩ := List.cons.inj same
        exact .inl bad
    | cons first before =>
        obtain ⟨rfl, rest⟩ := List.cons.inj same
        obtain ⟨known, held⟩ := List.forall_mem_cons.mp held
        exact .inr ⟨known, before, refused, after, rest, held, bad⟩
  · rintro (bad | ⟨known, before, refused, after, rfl, held, bad⟩)
    · exact ⟨[], pair, pairs, rfl, by simp, bad⟩
    · exact ⟨pair :: before, refused, after, rfl,
        List.forall_mem_cons.mpr ⟨known, held⟩, bad⟩

/-- A loop that fails leaves the vectors alone when it fails before it stores
a new one. -/
private theorem unchanged_iff {error : PyException}
    (failed : (persistVectors stored pairs).1 = .error error) :
    (∀ chunkId, (persistVectors stored pairs).2.vectors.get? chunkId =
        stored.vectors.get? chunkId) ↔ stored.RefusesFirst pairs := by
  induction pairs generalizing stored with
  | nil => cases failed
  | cons pair pairs induction =>
      rw [refusesFirst_cons]
      rcases @persistVectors_cons pairs stored pair with
        ⟨refused, error, same⟩ | ⟨accepted, next⟩
      · rw [same]
        simp [refused]
      · rw [next] at failed ⊢
        by_cases known : stored.vectors.get? pair.1 = some pair.2
        · have same : stored.storing pair = stored := by
            rw [StoredSnapshot.storing, Dict.set_of_get? _ known]
          rw [same] at failed ⊢
          rw [induction failed]
          simp [accepted, known]
        · obtain ⟨-, -, kept, -⟩ := persistVectors_spec
            (Prod.mk.eta (p := persistVectors (stored.storing pair) pairs)).symm
          have held := kept pair.1 pair.2 (Dict.get?_set_self _ _ _)
          simp only [accepted, known, not_true_eq_false, false_and, or_self,
            iff_false, not_forall]
          refine ⟨pair.1, fun same => known ?_⟩
          rw [← same, held]

end Loop

/-- Every pair of a batch that succeeds is stored. -/
private theorem persistVectors_stored {stored : StoredSnapshot}
    {pairs : List (String × List PyFloat)} (taken : stored.AcceptsAll pairs) :
    ∀ pair ∈ pairs, (persistVectors stored pairs).2.vectors.get? pair.1 =
      some pair.2 := by
  induction pairs generalizing stored with
  | nil => simp
  | cons first pairs induction =>
      obtain ⟨accepted, rest⟩ := acceptsAll_cons.mp taken
      rcases @persistVectors_cons pairs stored first with
        ⟨refused, -⟩ | ⟨-, next⟩
      · exact absurd accepted refused
      · rw [next]
        refine List.forall_mem_cons.mpr ⟨?_, induction rest⟩
        obtain ⟨-, -, kept, -⟩ :=
          @persistVectors_spec pairs (stored.storing first) _ _ rfl
        exact kept _ _ (Dict.get?_set_self _ _ _)

section Batch

variable {repository : MemoryEmbeddingRepository} {snapshotId : String}
  {pairs : List (String × List PyFloat)}

/-- An open snapshot gets what its loop leaves. -/
private theorem persistBatch_eq {stored : StoredSnapshot}
    (found : repository.stored.get? snapshotId = some stored)
    (incomplete : stored.snapshot.complete = false) :
    repository.persistBatch snapshotId pairs =
      ((persistVectors stored pairs).1,
        { repository with
          stored := repository.stored.set snapshotId
            (persistVectors stored pairs).2 }) := by
  simp [persistBatch, requireSnapshot, found, incomplete]

/-- A snapshot that is unknown or complete is left alone. -/
private theorem persistBatch_closed
    (closed : ∀ stored, repository.stored.get? snapshotId = some stored →
      stored.snapshot.complete = true) :
    ∃ error, repository.persistBatch snapshotId pairs =
      (.error error, repository) := by
  cases found : repository.stored.get? snapshotId with
  | none => simp [persistBatch, requireSnapshot, found]
  | some stored =>
      simp [persistBatch, requireSnapshot, found, closed stored found]

end Batch

/-- A batch is all or nothing for an open snapshot exactly when its pairs go
together, or when no new vector comes before the first bad one. -/
theorem persist_batch_whole_iff (repository : MemoryEmbeddingRepository)
    (snapshotId : String) (pairs : List (String × List PyFloat)) :
    repository.PersistsWhole snapshotId pairs ↔
      ∀ stored, repository.stored.get? snapshotId = some stored →
        stored.snapshot.complete = false →
          stored.AcceptsAll pairs ∨ stored.RefusesFirst pairs := by
  by_cases opened : ∃ stored,
      repository.stored.get? snapshotId = some stored ∧
        stored.snapshot.complete = false
  · obtain ⟨stored, found, incomplete⟩ := opened
    have persisted := @persistBatch_eq repository snapshotId pairs stored found
      incomplete
    have only : (∀ held, repository.stored.get? snapshotId = some held →
        held.snapshot.complete = false →
          held.AcceptsAll pairs ∨ held.RefusesFirst pairs) ↔
        stored.AcceptsAll pairs ∨ stored.RefusesFirst pairs := by
      constructor
      · exact fun all => all stored found incomplete
      · intro holds held found' _
        cases Option.some.inj (found.symm.trans found')
        exact holds
    rw [only]
    cases result : (persistVectors stored pairs).1 with
    | ok value =>
        have taken := persistVectors_ok_iff.mp result
        refine ⟨fun _ => .inl taken, fun _ => ⟨?_, ?_⟩⟩
        · intro error after failed
          rw [persisted, result] at failed
          cases failed
        · intro after succeeded pair member
          rw [persisted] at succeeded
          obtain ⟨-, rfl⟩ := Prod.mk.inj succeeded
          simp only [vector?, Dict.get?_set_self, Option.bind_some]
          exact persistVectors_stored taken pair member
    | error error =>
        have refused : ¬stored.AcceptsAll pairs := by
          intro taken
          rw [persistVectors_ok_iff.mpr taken] at result
          cases result
        rw [← unchanged_iff result]
        constructor
        · intro whole
          refine .inr fun chunkId => ?_
          have same := whole.failed error _ (result ▸ persisted) snapshotId
            chunkId
          simpa only [vector?, Dict.get?_set_self, found, Option.bind_some]
            using same
        · rintro (taken | same)
          · exact absurd taken refused
          · refine ⟨?_, ?_⟩
            · intro error' after failed other chunkId
              rw [persisted] at failed
              obtain ⟨-, rfl⟩ := Prod.mk.inj failed
              by_cases here : snapshotId = other
              · subst here
                simp only [vector?, Dict.get?_set_self, found,
                  Option.bind_some, same]
              · simp only [vector?, Dict.get?_set_of_ne _ _ here]
            · intro after succeeded
              rw [persisted, result] at succeeded
              cases succeeded
  · have closed : ∀ stored, repository.stored.get? snapshotId = some stored →
        stored.snapshot.complete = true := by
      intro stored found
      by_contra incomplete
      exact opened ⟨stored, found, Bool.eq_false_iff.mpr incomplete⟩
    obtain ⟨error, persisted⟩ := @persistBatch_closed repository snapshotId
      pairs closed
    constructor
    · intro _ stored found incomplete
      exact absurd ⟨stored, found, incomplete⟩ opened
    · refine fun _ => ⟨?_, ?_⟩
      · intro error' after failed other chunkId
        rw [persisted] at failed
        obtain ⟨-, rfl⟩ := Prod.mk.inj failed
        rfl
      · intro after succeeded
        rw [persisted] at succeeded
        cases succeeded

/-- A snapshot with one registered chunk. -/
def oneChunkRepository : MemoryEmbeddingRepository :=
  { stored := .ofList [("7",
      { snapshot := sampleSnapshot
        vectors := .empty
        artifacts := .ofList [("a", sampleChunk "a" sampleChunk_named)] })]
    finalizeAttempts := 0 }

/-- The chunk before an unknown one stays stored. -/
theorem unknown_chunk_keeps_first :
    ¬oneChunkRepository.PersistsWhole "7"
      [("a", [.finite 1]), ("b", [.finite 1])] := by
  rintro ⟨failed, -⟩
  have same := failed
    (.valueError "vector has no registered chunk artifact") _ rfl "7" "a"
  revert same
  decide +kernel

end MemoryEmbeddingRepository

end RagBench
