import RagBench.Retrieval.Bm25

/-!
# Hybrid retrieval

A hybrid search takes more hits from both branches than it returns, and fuses
them.  How deep it looks into the branches depends on the number of hits that
it returns.
-/

namespace RagBench

/-- `Retriever.search`. -/
abbrev Search :=
  String → ℤ → SearchFilter → Except PyException (List SearchHit)

/-- `DenseRetriever(embeddings, repository, token_counter=token_counter)`. -/
structure DenseRetriever where
  /-- `embed_query(query, snapshot_id=snapshot_id, input_tokens=input_tokens)`. -/
  embedQuery : String → String → ℤ → Except PyException (List PyFloat)
  /-- `repository.search(query_vector, top_k=top_k, filter=filter)`. -/
  searchRows : List PyFloat → ℤ → SearchFilter →
    Except PyException (List (String × PyFloat))
  tokenCounter : String → Except PyException ℤ

def DenseRetriever.search (retriever : DenseRetriever) : Search :=
  fun query topK filter => do
    raiseIf (topK ≤ 0) (.valueError "top_k must be positive")
    let inputTokens ← retriever.tokenCounter query
    let queryVector ← retriever.embedQuery query filter.embeddingSnapshotId
      inputTokens
    let rows ← retriever.searchRows queryVector topK filter
    return (rows.zipIdx 1).map fun ((chunkId, score), rank) =>
      { chunkId := chunkId
        score := score
        rank := rank
        retriever := "dense" }

structure HybridRetriever where
  dense : Search
  sparse : Search
  rrfK : ℤ
  weights : List PyFloat
  k_nonneg : 0 ≤ rrfK
  two_weights : weights.length = 2
  weights_positive : ∀ weight ∈ weights, isPositiveWeight weight = true

namespace HybridRetriever

/-- `HybridRetriever(dense, sparse, rrf_k=rrf_k, weights=weights)`. -/
def create (dense sparse : Search) (rrfK : ℤ := 60)
    (weights : List PyFloat := [.finite 1, .finite 1]) :
    Except PyException HybridRetriever :=
  if k_nonneg : 0 ≤ rrfK then
    if two_weights : weights.length = 2 then
      if weights_positive : ∀ weight ∈ weights,
          isPositiveWeight weight = true then
        .ok ⟨dense, sparse, rrfK, weights, k_nonneg, two_weights,
          weights_positive⟩
      else .error (.valueError "hybrid weights must be finite and positive")
    else .error
      (.valueError "hybrid weights must contain dense and sparse values")
  else .error (.valueError "rrf_k must be a nonnegative integer")

/-- `branch_k`. -/
def branchK (topK : ℤ) : ℤ :=
  max 20 (4 * topK)

/-- `{hit.chunk_id: hit for hit in hits}`. -/
def hitsById (hits : List SearchHit) : Dict String SearchHit :=
  .ofList (hits.map fun hit => (hit.chunkId, hit))

/-- The places of a fused hit in the branches. -/
def evidenceOf (denseHits sparseHits : List SearchHit) (hit : SearchHit) :
    RetrievalEvidence :=
  let dense := (hitsById denseHits).get? hit.chunkId
  let sparse := (hitsById sparseHits).get? hit.chunkId
  { denseRank := dense.map SearchHit.rank
    sparseRank := sparse.map SearchHit.rank
    denseScore := dense.map SearchHit.score
    sparseScore := sparse.map SearchHit.score
    fusedScore := hit.score }

/-- The loop over the fused hits. -/
def output (denseHits sparseHits fused : List SearchHit) : List SearchHit :=
  (fused.zipIdx 1).map fun (hit, rank) =>
    { chunkId := hit.chunkId
      score := hit.score
      rank := rank
      retriever := "hybrid-rrf"
      evidence := some (evidenceOf denseHits sparseHits hit) }

variable (hybrid : HybridRetriever)

def search (query : String) (topK : ℤ) (filter : SearchFilter) :
    Except PyException (List SearchHit) := do
  raiseIf (topK ≤ 0) (.valueError "top_k must be positive")
  let denseHits ← hybrid.dense query (branchK topK) filter
  let sparseHits ← hybrid.sparse query (branchK topK) filter
  let fused ← reciprocalRankFusion [denseHits, sparseHits] hybrid.rrfK
    hybrid.weights
  return output denseHits sparseHits (fused.take topK.toNat)

end HybridRetriever

/-! ## Nested searches -/

/-- A shallower search returns the first hits of a deeper one. -/
def IsNestedSearch (search : ℤ → Except PyException (List SearchHit)) : Prop :=
  ∀ k1 k2 hits, 0 < k1 → k1 < k2 → search k2 = .ok hits →
    search k1 = .ok (hits.take k1.toNat)

/-- A search that cuts one list is nested. -/
theorem isNestedSearch_of_take
    {search : ℤ → Except PyException (List SearchHit)}
    {complete : Except PyException (List SearchHit)}
    (cuts : ∀ topK, 0 < topK →
      search topK = complete.map fun hits => hits.take topK.toNat) :
    IsNestedSearch search := by
  intro k1 k2 hits positive less found
  rw [cuts k2 (positive.trans less)] at found
  rw [cuts k1 positive]
  cases complete with
  | error exception => cases found
  | ok ranking =>
      cases found
      have short : k1.toNat ≤ k2.toNat := Int.toNat_le_toNat less.le
      change Except.ok (ranking.take _) = Except.ok ((ranking.take _).take _)
      rw [List.take_take, min_eq_left short]

/-- A search in a BM25 index cuts one ranking. -/
theorem BM25Retriever.search_nested (tools : BM25Tools)
    (retriever : BM25Retriever) (query : String) (filter : SearchFilter) :
    IsNestedSearch fun topK => search tools retriever query topK filter := by
  let complete : Except PyException (List SearchHit) := do
    raiseIf (filter ≠ retriever.snapshot.searchFilter ∧
        ¬SameSnapshots filter retriever.snapshot.searchFilter) (.valueError
      "search filter snapshot identity does not match BM25 index snapshot")
    let queryTerms := distinct (baselineTokenize tools query)
    if queryTerms = [] ∨ retriever.snapshot.documents = [] then return []
    let scored ← (retriever.snapshot.documents.zip
        (retriever.termFrequencies.zip retriever.tokens)).foldlM
      (scoreDocument tools retriever filter queryTerms) []
    return numberHits "bm25" (sortBy scoredKey scored)
  refine @isNestedSearch_of_take _ complete fun topK positive => ?_
  rw [search, raiseIf_bind (not_le.mpr positive)]
  by_cases drift : filter ≠ retriever.snapshot.searchFilter ∧
      ¬SameSnapshots filter retriever.snapshot.searchFilter
  · simp only [complete]
    rw [raiseIf_bind_error drift, raiseIf_bind_error drift]
    rfl
  · simp only [complete]
    rw [raiseIf_bind drift, raiseIf_bind drift]
    split_ifs with empty
    · exact congrArg Except.ok List.take_nil.symm
    · cases List.foldlM (scoreDocument tools retriever filter
          (distinct (baselineTokenize tools query))) []
          (retriever.snapshot.documents.zip
            (retriever.termFrequencies.zip retriever.tokens)) with
      | error exception => rfl
      | ok scored => exact congrArg Except.ok (take_numberHits _ _ _).symm

namespace HybridRetriever

section Depth

variable (hybrid : HybridRetriever)

/-- All hits of the branches at a depth, fused. -/
def fusedAt (query : String) (depth : ℤ) (filter : SearchFilter) :
    Except PyException (List SearchHit) := do
  let denseHits ← hybrid.dense query depth filter
  let sparseHits ← hybrid.sparse query depth filter
  let fused ← reciprocalRankFusion [denseHits, sparseHits] hybrid.rrfK
    hybrid.weights
  return output denseHits sparseHits fused

theorem take_output (denseHits sparseHits fused : List SearchHit)
    (count : ℕ) :
    (output denseHits sparseHits fused).take count =
      output denseHits sparseHits (fused.take count) := by
  rw [output, ← List.map_take, take_zipIdx, output]

theorem map_scored_output (denseHits sparseHits fused : List SearchHit) :
    (output denseHits sparseHits fused).map SearchHit.scored =
      fused.map SearchHit.scored :=
  map_zipIdx_fst (fun _ _ => rfl) 1

/-- A search cuts what is fused at its depth. -/
theorem search_eq_fusedAt (query : String) {topK : ℤ} (positive : 0 < topK)
    (filter : SearchFilter) :
    hybrid.search query topK filter =
      (hybrid.fusedAt query (branchK topK) filter).map fun hits =>
        hits.take topK.toNat := by
  rw [search, raiseIf_bind (not_le.mpr positive), fusedAt]
  cases hybrid.dense query (branchK topK) filter with
  | error exception => rfl
  | ok denseHits =>
      cases hybrid.sparse query (branchK topK) filter with
      | error exception => rfl
      | ok sparseHits =>
          change (reciprocalRankFusion [denseHits, sparseHits] _ _ >>= _) =
            Except.map _ (reciprocalRankFusion [denseHits, sparseHits] _ _ >>= _)
          cases reciprocalRankFusion [denseHits, sparseHits] hybrid.rrfK
            hybrid.weights with
          | error exception => rfl
          | ok fused =>
              exact congrArg Except.ok (take_output _ _ _ _).symm

theorem fusionInput {denseHits sparseHits : List SearchHit}
    (ranking : IsRanking denseHits) (ranking' : IsRanking sparseHits) :
    FusionInput [denseHits, sparseHits] hybrid.rrfK hybrid.weights := by
  refine ⟨hybrid.k_nonneg, fun hits member => ?_, hybrid.two_weights,
    hybrid.weights_positive⟩
  simp only [List.mem_cons, List.not_mem_nil, or_false] at member
  rcases member with rfl | rfl
  · exact ranking
  · exact ranking'

/-- The branches of a hybrid search can be fused. -/
theorem exists_fusedAt {query : String} {depth : ℤ} {filter : SearchFilter}
    {denseHits sparseHits : List SearchHit}
    (dense : hybrid.dense query depth filter = .ok denseHits)
    (sparse : hybrid.sparse query depth filter = .ok sparseHits)
    (ranking : IsRanking denseHits) (ranking' : IsRanking sparseHits) :
    ∃ fused,
      hybrid.fusedAt query depth filter =
          .ok (output denseHits sparseHits fused) ∧
        FusesRankings [denseHits, sparseHits] hybrid.rrfK hybrid.weights
          fused := by
  obtain ⟨fused, found, fuses⟩ :=
    exists_fused (hybrid.fusionInput ranking ranking')
  refine ⟨fused, ?_, fuses⟩
  rw [fusedAt, dense, sparse]
  change (reciprocalRankFusion [denseHits, sparseHits] _ _ >>= _) = _
  rw [found]
  rfl

end Depth

/-- The branches have the same hits at the depths of two searches: the depths
are equal, or no branch has a hit below the smaller one. -/
def SameReach (hybrid : HybridRetriever) (query : String)
    (filter : SearchFilter) (k1 k2 : ℤ) : Prop :=
  branchK k1 = branchK k2 ∨
    ∀ branch ∈ [hybrid.dense, hybrid.sparse], ∀ hits,
      branch query (branchK k2) filter = .ok hits →
        (hits.length : ℤ) ≤ branchK k1

theorem branchK_pos (topK : ℤ) : 0 < branchK topK :=
  lt_max_of_lt_left (by decide)

/-- A branch without deeper hits returns the same hits. -/
private theorem branch_eq {search : ℤ → Except PyException (List SearchHit)}
    (nested : IsNestedSearch search) {k1 k2 : ℤ} (deeper : branchK k1 < branchK k2)
    {hits : List SearchHit} (found : search (branchK k2) = .ok hits)
    (short : (hits.length : ℤ) ≤ branchK k1) :
    search (branchK k1) = search (branchK k2) := by
  rw [nested _ _ _ (branchK_pos k1) deeper found, found,
    List.take_of_length_le (by omega)]

/-- Searches of the same reach cut the same fused hits. -/
private theorem fusedAt_eq {hybrid : HybridRetriever} {query : String}
    {filter : SearchFilter}
    (dense : IsNestedSearch fun topK => hybrid.dense query topK filter)
    (sparse : IsNestedSearch fun topK => hybrid.sparse query topK filter)
    {k1 k2 : ℤ} (less : k1 < k2) (reach : SameReach hybrid query filter k1 k2)
    {hits : List SearchHit}
    (found : hybrid.fusedAt query (branchK k2) filter = .ok hits) :
    hybrid.fusedAt query (branchK k1) filter = .ok hits := by
  rcases reach with same | short
  · rw [same, found]
  · have le : branchK k1 ≤ branchK k2 := max_le_max_left 20 (by omega)
    rcases le.eq_or_lt with same | deeper
    · rw [same, found]
    · rw [fusedAt] at found ⊢
      cases denseFound : hybrid.dense query (branchK k2) filter with
      | error exception =>
          rw [denseFound] at found
          cases found
      | ok denseHits =>
          cases sparseFound : hybrid.sparse query (branchK k2) filter with
          | error exception =>
              rw [denseFound, sparseFound] at found
              cases found
          | ok sparseHits =>
              have first := branch_eq dense deeper denseFound
                (short _ (by simp) _ denseFound)
              have second := branch_eq sparse deeper sparseFound
                (short _ (by simp) _ sparseFound)
              simp only [first, second, found]

end HybridRetriever

/-- BM25 results are nested, and those of a hybrid search are where the
branches have the same hits at both depths. -/
theorem top_k_results_nested {hybrid : HybridRetriever} {query : String}
    {filter : SearchFilter}
    (dense : IsNestedSearch fun topK => hybrid.dense query topK filter)
    (sparse : IsNestedSearch fun topK => hybrid.sparse query topK filter) :
    (∀ tools retriever query filter, IsNestedSearch fun topK =>
        BM25Retriever.search tools retriever query topK filter) ∧
      ∀ k1 k2 hits, 0 < k1 → k1 < k2 →
        HybridRetriever.SameReach hybrid query filter k1 k2 →
          hybrid.search query k2 filter = .ok hits →
            hybrid.search query k1 filter = .ok (hits.take k1.toNat) := by
  refine ⟨BM25Retriever.search_nested, ?_⟩
  intro k1 k2 hits positive less reach found
  rw [HybridRetriever.search_eq_fusedAt _ _ (positive.trans less)] at found
  cases deep : hybrid.fusedAt query (HybridRetriever.branchK k2) filter with
  | error exception =>
      rw [deep] at found
      cases found
  | ok fused =>
      rw [deep] at found
      cases found
      have short : k1.toNat ≤ k2.toNat := Int.toNat_le_toNat less.le
      rw [HybridRetriever.search_eq_fusedAt _ _ positive,
        HybridRetriever.fusedAt_eq dense sparse less reach deep]
      change Except.ok (fused.take _) = Except.ok ((fused.take _).take _)
      rw [List.take_take, min_eq_left short]

/-! ## A chunk below the depth of a branch -/

/-- A branch that returns the first hits of a ranking. -/
def rankedBranch (ranking : List SearchHit) : Search :=
  fun _ topK _ => .ok (ranking.take topK.toNat)

theorem rankedBranch_nested (ranking : List SearchHit) (query : String)
    (filter : SearchFilter) :
    IsNestedSearch fun topK => rankedBranch ranking query topK filter :=
  @isNestedSearch_of_take _ (.ok ranking) fun _ _ => rfl

/-- Twenty chunks, and the one that the other branch has. -/
def deepIds : List String :=
  ["a", "b", "c", "d", "e", "f", "g", "h", "i", "j", "k", "l", "m", "n", "o",
    "p", "q", "r", "s", "t", "x"]

/-- The dense branch finds the chunk of the sparse one in the last place. -/
def deepHybrid : HybridRetriever :=
  { dense := rankedBranch (numberHits "dense" (deepIds.map fun id => (id, 1)))
    sparse := rankedBranch (numberHits "bm25" [("x", 1)])
    rrfK := 60
    weights := [.finite 1, .finite 2]
    k_nonneg := by decide
    two_weights := rfl
    weights_positive := by decide +kernel }

/-- What the branches return at a depth. -/
def denseHits (depth : ℕ) : List SearchHit :=
  (numberHits "dense" (deepIds.map fun id => (id, 1))).take depth

def sparseHits (depth : ℕ) : List SearchHit :=
  (numberHits "bm25" [("x", 1)]).take depth

/-- The scores of the chunks at a depth. -/
def deepScore (depth : ℕ) (chunkId : String) : ℚ :=
  fusedScore 60 (weightedRankings [denseHits depth, sparseHits depth]
    (some deepHybrid.weights)) chunkId

private theorem exists_deep {topK : ℤ} (positive : 0 < topK)
    (filter : SearchFilter) :
    ∃ fused,
      deepHybrid.search "query" topK filter =
        .ok ((HybridRetriever.output
          (denseHits (HybridRetriever.branchK topK).toNat)
          (sparseHits (HybridRetriever.branchK topK).toNat) fused).take
            topK.toNat) ∧
      FusesRankings [denseHits (HybridRetriever.branchK topK).toNat,
        sparseHits (HybridRetriever.branchK topK).toNat] 60
          (some deepHybrid.weights) fused := by
  have ranking : IsRanking
      (numberHits "dense" (deepIds.map fun id => (id, 1))) :=
    isRanking_numberHits _ (by decide)
  have ranking' : IsRanking (numberHits "bm25" [("x", 1)]) :=
    isRanking_numberHits _ (by decide)
  obtain ⟨fused, found, fuses⟩ := @HybridRetriever.exists_fusedAt deepHybrid
    "query" (HybridRetriever.branchK topK) filter _ _ rfl rfl
    (ranking.take _) (ranking'.take _)
  refine ⟨fused, ?_, fuses⟩
  rw [HybridRetriever.search_eq_fusedAt _ _ positive, found]
  rfl

theorem top_k_results_nested_deep :
    ∃ hits,
      deepHybrid.search "query" 2 sampleIndexSnapshot.searchFilter =
        .ok hits ∧
      deepHybrid.search "query" 1 sampleIndexSnapshot.searchFilter =
        .ok (hits.take 1) := by
  obtain ⟨fused, found, -⟩ := @exists_deep 2 (by decide)
    sampleIndexSnapshot.searchFilter
  exact ⟨_, found, (top_k_results_nested
    (rankedBranch_nested _ "query" sampleIndexSnapshot.searchFilter)
    (rankedBranch_nested _ "query" sampleIndexSnapshot.searchFilter)).2
      1 2 _ (by decide) (by decide) (.inl (by decide)) found⟩

/-- The dense branch shows the chunk of the sparse one to the deeper search
alone. -/
theorem deep_results_not_nested :
    (IsNestedSearch fun topK =>
        deepHybrid.dense "query" topK sampleIndexSnapshot.searchFilter) ∧
      (IsNestedSearch fun topK =>
        deepHybrid.sparse "query" topK sampleIndexSnapshot.searchFilter) ∧
      ¬IsNestedSearch fun topK =>
        deepHybrid.search "query" topK sampleIndexSnapshot.searchFilter := by
  refine ⟨rankedBranch_nested _ "query" sampleIndexSnapshot.searchFilter,
    rankedBranch_nested _ "query" sampleIndexSnapshot.searchFilter,
    fun nested => ?_⟩
  obtain ⟨shallow, found, fuses⟩ := @exists_deep 1 (by decide)
    sampleIndexSnapshot.searchFilter
  obtain ⟨deep, found', fuses'⟩ := @exists_deep 6 (by decide)
    sampleIndexSnapshot.searchFilter
  have same := nested 1 6 _ (by decide) (by decide) found'
  have less : ∀ chunkId ∈ deepIds, deepScore 20 chunkId < deepScore 24 "x" := by
    decide +kernel
  have known : ∀ hits ∈ [denseHits 20, sparseHits 20],
      ∀ chunkId ∈ hits.map SearchHit.chunkId, chunkId ∈ deepIds := by decide
  have heads := found.symm.trans same
  simp only [HybridRetriever.take_output, List.take_take] at heads
  have heads := congrArg (List.map SearchHit.scored) (Except.ok.inj heads)
  rw [HybridRetriever.map_scored_output, HybridRetriever.map_scored_output]
    at heads
  have listed : "x" ∈ deep.map SearchHit.chunkId :=
    (fuses'.union "x").mpr ⟨_, List.mem_cons_self, by decide⟩
  obtain ⟨hit, member, chunk⟩ := List.mem_map.mp listed
  cases deep with
  | nil => cases member
  | cons head rest =>
      cases shallow with
      | nil => cases heads
      | cons first others =>
          obtain ⟨shown, -⟩ := List.cons.inj heads
          obtain ⟨-, score⟩ := Prod.mk.inj shown
          have large := fuses'.scores hit member
          rw [chunk] at large
          obtain ⟨high, top, le⟩ := le_head_score fuses'.ordered member large
          have small := fuses.scores first List.mem_cons_self
          rw [score, top] at small
          cases small
          have inside : first.chunkId ∈ deepIds := by
            obtain ⟨hits, listed, present⟩ := (fuses.union first.chunkId).mp
              (List.mem_map_of_mem List.mem_cons_self)
            exact known hits listed _ present
          exact absurd le (not_le.mpr (less first.chunkId inside))

end RagBench
