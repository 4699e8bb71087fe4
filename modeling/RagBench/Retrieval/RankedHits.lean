import Mathlib.Algebra.Order.Field.Rat
import Mathlib.Data.List.Pairwise
import Mathlib.Data.Prod.Lex
import RagBench.Dict
import RagBench.Retrieval.Base

/-!
# Ranked hits

Scored chunks are ordered by decreasing score, then by their ids, and numbered
from one.  Scores are exact.
-/

namespace RagBench

/-- The best score comes first, then the first id. -/
def scoredKey (item : String × ℚ) : ℚ ×ₗ String :=
  toLex (-item.2, item.1)

/-- Hits in the order of the list, numbered from one. -/
def numberHits (retriever : String) (ranked : List (String × ℚ)) :
    List SearchHit :=
  (ranked.zipIdx 1).map fun ((chunkId, score), rank) =>
    { chunkId := chunkId
      score := .finite score
      rank := rank
      retriever := retriever }

/-- A list of hits with the ranks from one on and distinct ids. -/
structure IsRanking (hits : List SearchHit) : Prop where
  ranks : hits.map SearchHit.rank =
    (List.range' 1 hits.length).map fun rank : ℕ => (rank : ℤ)
  distinct : (hits.map SearchHit.chunkId).Nodup

/-- A higher score, or the same score and a smaller id. -/
def SearchHit.Precedes (first second : SearchHit) : Prop :=
  ∃ high low, first.score = .finite high ∧ second.score = .finite low ∧
    (low < high ∨ low = high ∧ first.chunkId < second.chunkId)

section Numbered

variable {α β γ : Type} {items : List α} {build : α × ℕ → β}

/-- What is read of an item does not depend on its number. -/
theorem map_zipIdx_fst {read : β → γ} {shown : α → γ}
    (same : ∀ item number, read (build (item, number)) = shown item)
    (start : ℕ) :
    ((items.zipIdx start).map build).map read = items.map shown := by
  rw [List.map_map]
  calc (items.zipIdx start).map (read ∘ build)
      = ((items.zipIdx start).map Prod.fst).map shown := by
        rw [List.map_map]
        exact List.map_congr_left fun pair _ => same pair.1 pair.2
    _ = items.map shown := by rw [List.zipIdx_map_fst]

/-- The numbers of the items. -/
theorem map_zipIdx_snd {read : β → γ} {shown : ℕ → γ}
    (same : ∀ item number, read (build (item, number)) = shown number)
    (start : ℕ) :
    ((items.zipIdx start).map build).map read =
      (List.range' start items.length).map shown := by
  rw [List.map_map]
  calc (items.zipIdx start).map (read ∘ build)
      = ((items.zipIdx start).map Prod.snd).map shown := by
        rw [List.map_map]
        exact List.map_congr_left fun pair _ => same pair.1 pair.2
    _ = _ := by rw [List.zipIdx_map_snd]

end Numbered

/-- Items with distinct ids, numbered from one, are a ranking. -/
theorem isRanking_numbered {α : Type} {items : List α}
    {build : α × ℕ → SearchHit} {chunkId : α → String}
    (ranks : ∀ item number, (build (item, number)).rank = number)
    (ids : ∀ item number, (build (item, number)).chunkId = chunkId item)
    (distinct : (items.map chunkId).Nodup) :
    IsRanking ((items.zipIdx 1).map build) :=
  { ranks := by
      rw [map_zipIdx_snd ranks, List.length_map, List.length_zipIdx]
    distinct := by rwa [map_zipIdx_fst ids] }

theorem length_numberHits (retriever : String) (ranked : List (String × ℚ)) :
    (numberHits retriever ranked).length = ranked.length := by
  rw [numberHits, List.length_map, List.length_zipIdx]

theorem map_chunkId_numberHits (retriever : String)
    (ranked : List (String × ℚ)) :
    (numberHits retriever ranked).map SearchHit.chunkId =
      ranked.map Prod.fst :=
  map_zipIdx_fst (fun _ _ => rfl) 1

/-- A chunk with its score. -/
def SearchHit.scored (hit : SearchHit) : String × PyFloat :=
  (hit.chunkId, hit.score)

theorem map_scored_numberHits (retriever : String)
    (ranked : List (String × ℚ)) :
    (numberHits retriever ranked).map SearchHit.scored =
      ranked.map fun item => (item.1, PyFloat.finite item.2) :=
  map_zipIdx_fst (fun _ _ => rfl) 1

theorem isRanking_numberHits (retriever : String) {ranked : List (String × ℚ)}
    (distinct : (ranked.map Prod.fst).Nodup) :
    IsRanking (numberHits retriever ranked) :=
  isRanking_numbered (fun _ _ => rfl) (fun _ _ => rfl) distinct

/-- The first hits of a ranking are a ranking. -/
theorem IsRanking.take {hits : List SearchHit} (ranking : IsRanking hits)
    (count : ℕ) : IsRanking (hits.take count) :=
  { ranks := by
      rw [List.map_take, ranking.ranks, ← List.map_take, List.length_take]
      rcases le_total count hits.length with short | long
      · rw [List.take_range'_of_length_ge short, min_eq_left short]
      · rw [List.take_range'_of_length_le long, min_eq_right long]
    distinct := by
      rw [List.map_take]
      exact (List.take_sublist _ _).nodup ranking.distinct }

theorem take_zipIdx {α : Type} (items : List α) (start count : ℕ) :
    (items.zipIdx start).take count = (items.take count).zipIdx start := by
  induction items generalizing start count with
  | nil => simp
  | cons item items induction =>
      cases count with
      | zero => rfl
      | succ count =>
          rw [List.zipIdx_cons, List.take_succ_cons, induction,
            List.take_succ_cons, List.zipIdx_cons]

theorem take_numberHits (retriever : String) (ranked : List (String × ℚ))
    (count : ℕ) :
    (numberHits retriever ranked).take count =
      numberHits retriever (ranked.take count) := by
  rw [numberHits, ← List.map_take, take_zipIdx, numberHits]

/-- A hit shows a scored chunk. -/
theorem mem_numberHits {retriever : String} {ranked : List (String × ℚ)}
    {hit : SearchHit} (member : hit ∈ numberHits retriever ranked) :
    ∃ score, (hit.chunkId, score) ∈ ranked ∧ hit.score = .finite score ∧
      hit.retriever = retriever ∧ hit.evidence = none := by
  obtain ⟨⟨⟨chunkId, score⟩, rank⟩, listed, rfl⟩ := List.mem_map.mp member
  exact ⟨score, List.fst_mem_of_mem_zipIdx listed, rfl, rfl, rfl⟩

theorem scoredKey_nodup {scored : List (String × ℚ)}
    (distinct : (scored.map Prod.fst).Nodup) :
    (scored.map scoredKey).Nodup := by
  refine List.Nodup.of_map (fun key => (ofLex key).2) ?_
  rw [List.map_map]
  exact distinct

/-- Sorted chunks make ordered hits. -/
theorem precedes_numberHits (retriever : String) {scored : List (String × ℚ)}
    (distinct : (scored.map Prod.fst).Nodup) :
    (numberHits retriever (sortBy scoredKey scored)).Pairwise
      SearchHit.Precedes := by
  have sorted := sortBy_pairwise scoredKey scored
  have apart := ((sortBy_perm scoredKey scored).map Prod.fst).nodup_iff.mpr
    distinct
  have ordered := sorted.and (List.pairwise_map.mp apart)
  rw [← List.zipIdx_map_fst 1 (sortBy scoredKey scored), List.pairwise_map]
    at ordered
  rw [numberHits, List.pairwise_map]
  refine ordered.imp fun {first second} parts => ?_
  obtain ⟨⟨firstId, high⟩, _⟩ := first
  obtain ⟨⟨secondId, low⟩, _⟩ := second
  obtain ⟨le, different⟩ := parts
  refine ⟨high, low, rfl, rfl, ?_⟩
  rcases Prod.Lex.le_iff.mp le with less | ⟨same, before⟩
  · exact .inl (neg_lt_neg_iff.mp less)
  · exact .inr ⟨(neg_inj.mp same).symm, lt_of_le_of_ne before different⟩

/-- The hit with the higher score has the smaller rank. -/
theorem rank_lt_of_score_lt {hits : List SearchHit} (ranking : IsRanking hits)
    (ordered : hits.Pairwise SearchHit.Precedes) {first second : SearchHit}
    (member : first ∈ hits) (member' : second ∈ hits) {high low : ℚ}
    (score : first.score = .finite high) (score' : second.score = .finite low)
    (less : low < high) : first.rank < second.rank := by
  have ascending : hits.Pairwise fun early late => early.rank < late.rank := by
    rw [← List.pairwise_map (f := SearchHit.rank), ranking.ranks,
      List.pairwise_map]
    exact (List.pairwise_lt_range' 1).imp Int.ofNat_lt.mpr
  let apart (early late : SearchHit) : Prop :=
    early.Precedes late ∧ early.rank < late.rank ∨
      late.Precedes early ∧ late.rank < early.rank
  have symmetric : Std.Symm apart := ⟨fun _ _ => Or.symm⟩
  have together : hits.Pairwise apart := (ordered.and ascending).imp Or.inl
  have different : first ≠ second := by
    rintro rfl
    rw [score] at score'
    cases score'
    exact lt_irrefl _ less
  rcases together.forall member member' different with
    ⟨-, before⟩ | ⟨⟨high', low', same', same, order⟩, -⟩
  · exact before
  · rw [score] at same
    rw [score'] at same'
    cases same
    cases same'
    rcases order with greater | ⟨equal, -⟩
    · exact absurd greater (not_lt.mpr less.le)
    · exact absurd equal less.ne'

/-- No hit has a higher score than the first one. -/
theorem le_head_score {first : SearchHit} {rest : List SearchHit}
    (ordered : (first :: rest).Pairwise SearchHit.Precedes) {hit : SearchHit}
    (member : hit ∈ first :: rest) {low : ℚ} (score : hit.score = .finite low) :
    ∃ high, first.score = .finite high ∧ low ≤ high := by
  rcases List.mem_cons.mp member with rfl | later
  · exact ⟨low, score, le_rfl⟩
  · obtain ⟨high, low', same, same', order⟩ :=
      (List.pairwise_cons.mp ordered).1 hit later
    rw [score] at same'
    cases same'
    refine ⟨high, same, ?_⟩
    rcases order with less | ⟨equal, -⟩
    · exact less.le
    · exact equal.le

end RagBench
