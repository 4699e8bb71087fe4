import RagBench.Experiments.RetrievalGrid
import RagBench.Retrieval.Hybrid

/-!
# Hits that the screen keeps

The screen checks a list of hits before it keeps them: their number, ranks,
ids, scores and labels, and for a hybrid retriever the component evidence.
-/

namespace RagBench

/-- `PersistedRankedHit`. -/
structure PersistedRankedHit where
  questionId : String
  chunkId : String
  rank : ℤ
  score : PyFloat
  retriever : String
  denseRank : Option ℤ
  sparseRank : Option ℤ
  denseScore : Option PyFloat
  sparseScore : Option PyFloat
  fusedScore : PyFloat
  deriving DecidableEq

/-! ## The checks -/

/-- The label of the hits of a bound retriever. -/
def expectedLabel (name : RetrieverName) : String :=
  if name = .hybrid then "hybrid-rrf" else name.value

/-- The component evidence of a hybrid hit can be kept. -/
def isComponentEvidence (hit : SearchHit) : Bool :=
  match hit.evidence with
  | none => false
  | some evidence =>
      let ranks := [evidence.denseRank, evidence.sparseRank]
      let scores := [evidence.denseScore, evidence.sparseScore]
      evidence.fusedScore.isFinite ∧
        evidence.fusedScore.equals hit.score ∧
        ¬(evidence.denseRank = none ∧ evidence.sparseRank = none) ∧
        (ranks.all fun rank => rank.all fun place => 0 < place) ∧
        ((ranks.zip scores).all fun pair => pair.1.isNone = pair.2.isNone) ∧
        (scores.all fun score => score.all PyFloat.isFinite)

/-- The row of a hit. -/
def persistedHit (questionId : String) (hit : SearchHit) :
    PersistedRankedHit :=
  { questionId := questionId
    chunkId := hit.chunkId
    rank := hit.rank
    score := hit.score
    retriever := hit.retriever
    denseRank := hit.evidence.bind RetrievalEvidence.denseRank
    sparseRank := hit.evidence.bind RetrievalEvidence.sparseRank
    denseScore := hit.evidence.bind RetrievalEvidence.denseScore
    sparseScore := hit.evidence.bind RetrievalEvidence.sparseScore
    fusedScore :=
      match hit.evidence with
      | none => hit.score
      | some evidence => evidence.fusedScore }

/-- `_persistable_hits`. -/
def persistableHits (questionId : String) (hits : List SearchHit) (topK : ℤ)
    (name : RetrieverName) : Except PyException (List PersistedRankedHit) := do
  raiseIf (topK < hits.length)
    (.valueError "retriever returned more than top_k hits")
  raiseIf (hits.map SearchHit.rank ≠
        ((List.range' 1 hits.length).map fun rank : ℕ => (rank : ℤ)) ∨
      (hits.map SearchHit.chunkId).toFinset.card ≠ hits.length)
    (.valueError "retriever returned an invalid ranking")
  raiseIf (hits.any fun hit => ¬hit.score.isFinite)
    (.valueError "retriever returned a non-finite score")
  raiseIf (hits.any fun hit => hit.retriever ≠ expectedLabel name) (.valueError
    "hit retriever identity does not match the bound retriever")
  if name = .hybrid then
    raiseIf (hits.any fun hit => ¬isComponentEvidence hit)
      (.valueError "hybrid hit component evidence is invalid")
  else
    raiseIf (hits.any fun hit => hit.evidence ≠ none)
      (.valueError "non-hybrid hits cannot carry component evidence")
  return hits.map (persistedHit questionId)

/-! ## What a retriever returns -/

/-- A ranking of at most `top_k` hits with finite scores. -/
structure IsSearchResult (topK : ℤ) (hits : List SearchHit) : Prop where
  ranking : IsRanking hits
  short : (hits.length : ℤ) ≤ topK
  finite : ∀ hit ∈ hits, hit.score.isFinite = true

/-- Every search returns such a ranking. -/
def IsBranch (search : Search) : Prop :=
  ∀ query topK filter hits, search query topK filter = .ok hits →
    IsSearchResult topK hits

/-- The row shows what the hit shows. -/
structure Carries (questionId : String) (hit : SearchHit)
    (row : PersistedRankedHit) : Prop where
  question : row.questionId = questionId
  chunk : row.chunkId = hit.chunkId
  rank : row.rank = hit.rank
  score : row.score = hit.score
  label : row.retriever = hit.retriever
  plain : hit.evidence = none →
    row.denseRank = none ∧ row.sparseRank = none ∧
      row.denseScore = none ∧ row.sparseScore = none ∧
      row.fusedScore = hit.score
  evidence : ∀ shown, hit.evidence = some shown →
    row.denseRank = shown.denseRank ∧ row.sparseRank = shown.sparseRank ∧
      row.denseScore = shown.denseScore ∧
      row.sparseScore = shown.sparseScore ∧
      row.fusedScore = shown.fusedScore

/-- The screen keeps the hits as they are. -/
def Persists (questionId : String) (hits : List SearchHit) (topK : ℤ)
    (name : RetrieverName) : Prop :=
  ∃ rows, persistableHits questionId hits topK name = .ok rows ∧
    List.Forall₂ (Carries questionId) hits rows

theorem persistedHit_carries (questionId : String) (hit : SearchHit) :
    Carries questionId hit (persistedHit questionId hit) := by
  constructor
  case plain =>
    intro missing
    simp [persistedHit, missing]
  case evidence =>
    intro shown found
    simp [persistedHit, found]
  all_goals rfl

section Checks

variable {questionId : String} {topK : ℤ} {hits : List SearchHit}

/-- The checks of every retriever. -/
private theorem persistableHits_eq (result : IsSearchResult topK hits)
    {name : RetrieverName}
    (labels : ∀ hit ∈ hits, hit.retriever = expectedLabel name) :
    persistableHits questionId hits topK name = (do
      if name = .hybrid then
        raiseIf (hits.any fun hit => ¬isComponentEvidence hit)
          (.valueError "hybrid hit component evidence is invalid")
      else
        raiseIf (hits.any fun hit => hit.evidence ≠ none)
          (.valueError "non-hybrid hits cannot carry component evidence")
      return hits.map (persistedHit questionId)) := by
  have ranked : ¬(hits.map SearchHit.rank ≠
        ((List.range' 1 hits.length).map fun rank : ℕ => (rank : ℤ)) ∨
      (hits.map SearchHit.chunkId).toFinset.card ≠ hits.length) := by
    rintro (bad | bad)
    · exact bad result.ranking.ranks
    · apply bad
      rw [List.toFinset_card_of_nodup result.ranking.distinct,
        List.length_map]
  have finite : ¬(hits.any fun hit => ¬hit.score.isFinite) = true := by
    simp only [List.any_eq_true, decide_eq_true_eq, not_exists, not_and,
      not_not]
    exact result.finite
  have label : ¬(hits.any fun hit =>
      hit.retriever ≠ expectedLabel name) = true := by
    simp only [List.any_eq_true, decide_eq_true_eq, not_exists, not_and,
      not_not]
    exact labels
  rw [persistableHits, raiseIf_bind (not_lt.mpr result.short),
    raiseIf_bind ranked, raiseIf_bind finite, raiseIf_bind label]

theorem persists_plain (result : IsSearchResult topK hits)
    {name : RetrieverName} (single : name ≠ .hybrid)
    (labels : ∀ hit ∈ hits, hit.retriever = name.value)
    (plain : ∀ hit ∈ hits, hit.evidence = none) :
    Persists questionId hits topK name := by
  have expected : expectedLabel name = name.value := if_neg single
  have bare : ¬(hits.any fun hit => hit.evidence ≠ none) = true := by
    simp only [List.any_eq_true, decide_eq_true_eq, not_exists, not_and,
      not_not]
    exact plain
  refine ⟨hits.map (persistedHit questionId), ?_, ?_⟩
  · rw [persistableHits_eq result (expected ▸ labels), if_neg single,
      raiseIf_bind bare]
    rfl
  · rw [List.forall₂_map_right_iff, List.forall₂_same]
    exact fun hit _ => persistedHit_carries questionId hit

theorem persists_hybrid (result : IsSearchResult topK hits)
    (labels : ∀ hit ∈ hits, hit.retriever = "hybrid-rrf")
    (shown : ∀ hit ∈ hits, isComponentEvidence hit = true) :
    Persists questionId hits topK .hybrid := by
  have kept : ¬(hits.any fun hit => ¬isComponentEvidence hit) = true := by
    simp only [List.any_eq_true, decide_eq_true_eq, not_exists, not_and,
      not_not]
    exact shown
  have expected : ∀ hit ∈ hits, hit.retriever = expectedLabel .hybrid :=
    labels
  refine ⟨hits.map (persistedHit questionId), ?_, ?_⟩
  · rw [persistableHits_eq result expected, if_pos rfl, raiseIf_bind kept]
    rfl
  · rw [List.forall₂_map_right_iff, List.forall₂_same]
    exact fun hit _ => persistedHit_carries questionId hit

end Checks

/-! ## The branches -/

/-- A repository returns at most `top_k` rows with distinct ids and finite
scores. -/
structure IsRowResult (topK : ℤ) (rows : List (String × PyFloat)) : Prop where
  short : (rows.length : ℤ) ≤ topK
  distinct : (rows.map Prod.fst).Nodup
  finite : ∀ row ∈ rows, row.2.isFinite = true

/-- The repository of a dense retriever does. -/
def DenseRetriever.HasRows (retriever : DenseRetriever) : Prop :=
  ∀ queryVector topK filter rows, 0 < topK →
    retriever.searchRows queryVector topK filter = .ok rows →
      IsRowResult topK rows

/-- What a dense search returns. -/
theorem DenseRetriever.search_result {retriever : DenseRetriever}
    (stored : retriever.HasRows) {query : String} {topK : ℤ}
    {filter : SearchFilter} {hits : List SearchHit}
    (found : retriever.search query topK filter = .ok hits) :
    IsSearchResult topK hits ∧ (∀ hit ∈ hits, hit.retriever = "dense") ∧
      ∀ hit ∈ hits, hit.evidence = none := by
  obtain ⟨_, checked, found⟩ := bind_eq_ok.mp found
  have positive := not_le.mp (raiseIf_eq_ok.mp checked)
  obtain ⟨inputTokens, -, found⟩ := bind_eq_ok.mp found
  obtain ⟨queryVector, -, found⟩ := bind_eq_ok.mp found
  obtain ⟨rows, searched, found⟩ := bind_eq_ok.mp found
  cases found
  have result := stored queryVector topK filter rows positive searched
  refine ⟨⟨?_, ?_, ?_⟩, ?_, ?_⟩
  · exact isRanking_numbered (fun _ _ => rfl) (fun _ _ => rfl)
      result.distinct
  · rw [List.length_map, List.length_zipIdx]
    exact result.short
  · intro hit member
    obtain ⟨⟨row, rank⟩, listed, rfl⟩ := List.mem_map.mp member
    exact result.finite row (List.fst_mem_of_mem_zipIdx listed)
  · intro hit member
    obtain ⟨pair, -, rfl⟩ := List.mem_map.mp member
    rfl
  · intro hit member
    obtain ⟨pair, -, rfl⟩ := List.mem_map.mp member
    rfl

namespace BM25Retriever

variable {tools : BM25Tools} {retriever : BM25Retriever}
  {filter : SearchFilter}

/-- A document is scored once, or not at all. -/
private theorem scoreDocument_keeps {queryTerms : List String}
    {before after : List (String × ℚ)}
    {row : BM25Document × Dict String ℕ × List String}
    (scored : scoreDocument tools retriever filter queryTerms before row =
      .ok after) :
    after = before ∨ ∃ score, after = before ++ [(row.1.chunkId, score)] := by
  obtain ⟨document, frequencies, tokens⟩ := row
  simp only [scoreDocument] at scored
  by_cases allowed : isAllowed filter document
  · rw [if_neg (not_not.mpr allowed)] at scored
    obtain ⟨score, -, scored⟩ := bind_eq_ok.mp scored
    have same := Except.ok.inj scored
    split_ifs at same
    · exact .inr ⟨score, same.symm⟩
    · exact .inl same.symm
  · rw [if_pos allowed] at scored
    exact .inl (Except.ok.inj scored).symm

/-- The scored chunks are those of some of the documents, in their order. -/
private theorem scored_sublist {queryTerms : List String}
    {rows : List (BM25Document × Dict String ℕ × List String)}
    {before after : List (String × ℚ)}
    (scored : rows.foldlM (scoreDocument tools retriever filter queryTerms)
      before = .ok after) :
    (after.map Prod.fst).Sublist
      (before.map Prod.fst ++ rows.map fun row => row.1.chunkId) := by
  induction rows generalizing before with
  | nil =>
      cases scored
      simp
  | cons row rows induction =>
      rw [List.foldlM_cons] at scored
      obtain ⟨next, first, later⟩ := bind_eq_ok.mp scored
      rcases scoreDocument_keeps first with rfl | ⟨score, rfl⟩
      · apply (induction later).trans
        exact (List.sublist_cons_self _ _).append_left _
      · have kept := induction later
        simpa using kept

private theorem map_fst_zip_sublist {α β : Type} (items : List α)
    (others : List β) : ((items.zip others).map Prod.fst).Sublist items := by
  induction items generalizing others with
  | nil => simp
  | cons item items induction =>
      cases others with
      | nil => simp
      | cons other others =>
          rw [List.zip_cons_cons, List.map_cons]
          exact (induction others).cons_cons item

/-- The rows of the loop name distinct chunks. -/
private theorem rows_nodup (retriever : BM25Retriever) :
    ((retriever.snapshot.documents.zip
      (retriever.termFrequencies.zip retriever.tokens)).map
        fun row => row.1.chunkId).Nodup := by
  have listed := retriever.snapshot.distinct.sublist
    ((map_fst_zip_sublist retriever.snapshot.documents
      (retriever.termFrequencies.zip retriever.tokens)).map
        BM25Document.chunkId)
  rwa [List.map_map] at listed

/-- What a search in a BM25 index returns. -/
theorem search_result {query : String} {topK : ℤ} {hits : List SearchHit}
    (found : search tools retriever query topK filter = .ok hits) :
    IsSearchResult topK hits ∧ (∀ hit ∈ hits, hit.retriever = "bm25") ∧
      ∀ hit ∈ hits, hit.evidence = none := by
  obtain ⟨_, checked, found⟩ := bind_eq_ok.mp found
  obtain ⟨_, -, found⟩ := bind_eq_ok.mp found
  have positive := not_le.mp (raiseIf_eq_ok.mp checked)
  dsimp only at found
  split_ifs at found with empty
  · cases found
    refine ⟨⟨⟨rfl, List.nodup_nil⟩, positive.le, ?_⟩, ?_, ?_⟩
    all_goals simp
  · obtain ⟨scored, looped, found⟩ := bind_eq_ok.mp found
    cases found
    have distinct : (scored.map Prod.fst).Nodup :=
      (rows_nodup retriever).sublist (scored_sublist looped)
    have ranked : ((sortBy scoredKey scored).map Prod.fst).Nodup :=
      ((sortBy_perm scoredKey scored).map Prod.fst).nodup_iff.mpr distinct
    have cut := ranked.sublist ((List.take_sublist topK.toNat _).map Prod.fst)
    refine ⟨⟨isRanking_numberHits _ cut, ?_, ?_⟩, ?_, ?_⟩
    · rw [length_numberHits, List.length_take]
      omega
    · intro hit member
      obtain ⟨score, -, same, -⟩ := mem_numberHits member
      rw [same]
      rfl
    · intro hit member
      obtain ⟨-, -, -, label, -⟩ := mem_numberHits member
      exact label
    · intro hit member
      obtain ⟨-, -, -, -, plain⟩ := mem_numberHits member
      exact plain

end BM25Retriever

/-! ## Fused hits -/

namespace HybridRetriever

/-- The hit of a chunk in a branch. -/
private theorem hitsById_spec {branch : List SearchHit} {chunkId : String} :
    (∀ hit, (hitsById branch).get? chunkId = some hit → hit ∈ branch) ∧
      (chunkId ∈ branch.map SearchHit.chunkId →
        (hitsById branch).get? chunkId ≠ none) := by
  constructor
  · intro hit found
    obtain ⟨source, member, same⟩ :=
      List.mem_map.mp (Dict.mem_of_get?_ofList found)
    cases same
    exact member
  · intro present missing
    apply Dict.lookup_eq_none_iff.mp missing
    rw [← Dict.keys, hitsById, Dict.mem_keys_ofList, List.map_map]
    exact present

/-- A hit of a branch has a positive rank. -/
private theorem rank_pos {branch : List SearchHit} (ranking : IsRanking branch)
    {hit : SearchHit} (member : hit ∈ branch) : 0 < hit.rank := by
  have listed : hit.rank ∈ branch.map SearchHit.rank :=
    List.mem_map_of_mem member
  rw [ranking.ranks, List.mem_map] at listed
  obtain ⟨rank, inside, same⟩ := listed
  have one := (List.mem_range'_1.mp inside).1
  omega

/-- The evidence of a chunk of the branches can be kept. -/
private theorem isComponentEvidence_of {denseHits sparseHits : List SearchHit}
    {depth : ℤ} (dense : IsSearchResult depth denseHits)
    (sparse : IsSearchResult depth sparseHits) {hit shown : SearchHit}
    (present : shown.chunkId ∈ denseHits.map SearchHit.chunkId ∨
      shown.chunkId ∈ sparseHits.map SearchHit.chunkId)
    (finite : shown.score.isFinite = true) (score : hit.score = shown.score)
    (evidence : hit.evidence = some (evidenceOf denseHits sparseHits shown)) :
    isComponentEvidence hit = true := by
  have equal : shown.score.equals hit.score = true := by
    rw [score]
    revert finite
    cases shown.score <;> simp [PyFloat.equals, PyFloat.isFinite]
  have first := @hitsById_spec denseHits shown.chunkId
  have second := @hitsById_spec sparseHits shown.chunkId
  simp only [isComponentEvidence, evidence, evidenceOf, decide_eq_true_eq]
  refine ⟨finite, equal, ?_, ?_, ?_, ?_⟩
  · rintro ⟨noDense, noSparse⟩
    rcases present with inside | inside
    · exact first.2 inside (Option.map_eq_none_iff.mp noDense)
    · exact second.2 inside (Option.map_eq_none_iff.mp noSparse)
  · simp only [List.all_cons, List.all_nil, Bool.and_true, Bool.and_eq_true,
      Option.all_map]
    constructor
    · cases found : (hitsById denseHits).get? shown.chunkId with
      | none => rfl
      | some source =>
          exact decide_eq_true (rank_pos dense.ranking (first.1 _ found))
    · cases found : (hitsById sparseHits).get? shown.chunkId with
      | none => rfl
      | some source =>
          exact decide_eq_true (rank_pos sparse.ranking (second.1 _ found))
  · simp
  · simp only [List.all_cons, List.all_nil, Bool.and_true, Bool.and_eq_true,
      Option.all_map]
    constructor
    · cases found : (hitsById denseHits).get? shown.chunkId with
      | none => rfl
      | some source => exact dense.finite source (first.1 _ found)
    · cases found : (hitsById sparseHits).get? shown.chunkId with
      | none => rfl
      | some source => exact sparse.finite source (second.1 _ found)

/-- What a hybrid search returns. -/
theorem search_result {hybrid : HybridRetriever}
    (dense : IsBranch hybrid.dense) (sparse : IsBranch hybrid.sparse)
    {query : String} {topK : ℤ} {filter : SearchFilter}
    {hits : List SearchHit}
    (found : hybrid.search query topK filter = .ok hits) :
    IsSearchResult topK hits ∧
      (∀ hit ∈ hits, hit.retriever = "hybrid-rrf") ∧
      ∀ hit ∈ hits, isComponentEvidence hit = true := by
  obtain ⟨_, checked, found⟩ := bind_eq_ok.mp found
  have positive := not_le.mp (raiseIf_eq_ok.mp checked)
  obtain ⟨denseHits, denseFound, found⟩ := bind_eq_ok.mp found
  obtain ⟨sparseHits, sparseFound, found⟩ := bind_eq_ok.mp found
  obtain ⟨fused, fusion, found⟩ := bind_eq_ok.mp found
  cases found
  have first := dense _ _ _ _ denseFound
  have second := sparse _ _ _ _ sparseFound
  have input : FusionInput [denseHits, sparseHits] hybrid.rrfK
      hybrid.weights :=
    hybrid.fusionInput first.ranking second.ranking
  obtain ⟨fused', fusion', fuses⟩ := exists_fused input
  cases Except.ok.inj (fusion.symm.trans fusion')
  have cut := fuses.ranking.take topK.toNat
  have score : ∀ shown ∈ fused, shown.score.isFinite = true := by
    intro shown member
    rw [fuses.scores shown member]
    rfl
  refine ⟨⟨?_, ?_, ?_⟩, ?_, ?_⟩
  · exact isRanking_numbered (fun _ _ => rfl) (fun _ _ => rfl) cut.distinct
  · rw [output, List.length_map, List.length_zipIdx, List.length_take]
    omega
  · intro hit member
    obtain ⟨⟨shown, rank⟩, listed, rfl⟩ := List.mem_map.mp member
    exact score shown (List.mem_of_mem_take (List.fst_mem_of_mem_zipIdx listed))
  · intro hit member
    obtain ⟨pair, -, rfl⟩ := List.mem_map.mp member
    rfl
  · intro hit member
    obtain ⟨⟨shown, rank⟩, listed, rfl⟩ := List.mem_map.mp member
    have kept := List.mem_of_mem_take (List.fst_mem_of_mem_zipIdx listed)
    have union := (fuses.union shown.chunkId).mp (List.mem_map_of_mem kept)
    refine isComponentEvidence_of first second ?_ (score shown kept) rfl rfl
    simpa using union

end HybridRetriever

/-- The screen keeps every list of hits that a retriever returns, as it is. -/
theorem screen_accepts_retrieved (questionId : String) :
    (∀ tools retriever,
      IsBranch (BM25Retriever.search tools retriever) ∧
        ∀ query topK filter hits,
          BM25Retriever.search tools retriever query topK filter = .ok hits →
            Persists questionId hits topK .bm25) ∧
      (∀ retriever : DenseRetriever, retriever.HasRows →
        IsBranch retriever.search ∧
          ∀ query topK filter hits,
            retriever.search query topK filter = .ok hits →
              Persists questionId hits topK .dense) ∧
      ∀ hybrid : HybridRetriever, IsBranch hybrid.dense →
        IsBranch hybrid.sparse → ∀ query topK filter hits,
          hybrid.search query topK filter = .ok hits →
            Persists questionId hits topK .hybrid := by
  refine ⟨fun tools retriever => ⟨?_, ?_⟩, fun retriever stored => ⟨?_, ?_⟩, ?_⟩
  · exact fun query topK filter hits found =>
      (BM25Retriever.search_result found).1
  · intro query topK filter hits found
    obtain ⟨result, labels, plain⟩ := BM25Retriever.search_result found
    exact persists_plain result (by decide) labels plain
  · exact fun query topK filter hits found =>
      (DenseRetriever.search_result stored found).1
  · intro query topK filter hits found
    obtain ⟨result, labels, plain⟩ := DenseRetriever.search_result stored found
    exact persists_plain result (by decide) labels plain
  · intro hybrid dense sparse query topK filter hits found
    obtain ⟨result, labels, shown⟩ :=
      HybridRetriever.search_result dense sparse found
    exact persists_hybrid result labels shown

/-- A repository with one row. -/
def sampleDense : DenseRetriever :=
  { embedQuery := fun _ _ _ => .ok [.finite 1]
    searchRows := fun _ _ _ => .ok [("a", .finite (1 / 2))]
    tokenCounter := fun query => .ok query.length }

def sampleHybrid : HybridRetriever :=
  { dense := sampleDense.search
    sparse := BM25Retriever.search sampleBM25Tools
      (bm25Index sampleBM25Tools sampleIndexSnapshot 1 0)
    rrfK := 60
    weights := [.finite 1, .finite 1]
    k_nonneg := deepHybrid.k_nonneg
    two_weights := rfl
    weights_positive := by decide +kernel }

theorem screen_accepts_retrieved_sample :
    ∃ hits,
      sampleHybrid.search "" 3 sampleIndexSnapshot.searchFilter = .ok hits ∧
        Persists "question" hits 3 .hybrid := by
  have stored : sampleDense.HasRows := by
    intro queryVector topK filter rows positive found
    cases found
    refine ⟨?_, by simp, by simp [PyFloat.isFinite]⟩
    exact positive
  obtain ⟨bm25, dense, hybrid⟩ := screen_accepts_retrieved "question"
  obtain ⟨fused, found, -⟩ := @HybridRetriever.exists_fusedAt sampleHybrid
    "" 20 sampleIndexSnapshot.searchFilter
    [{ chunkId := "a", score := .finite (1 / 2), rank := 1,
       retriever := "dense" }] [] rfl (by decide +kernel)
    ⟨rfl, by simp⟩ ⟨rfl, by simp⟩
  have searched := @HybridRetriever.search_eq_fusedAt sampleHybrid "" 3
    (by decide) sampleIndexSnapshot.searchFilter
  have depth : HybridRetriever.branchK 3 = 20 := rfl
  rw [depth, found] at searched
  exact ⟨_, searched, hybrid sampleHybrid (dense sampleDense stored).1
    (bm25 sampleBM25Tools _).1 _ _ _ _ searched⟩

end RagBench
