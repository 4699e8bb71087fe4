import Mathlib.Algebra.BigOperators.Group.List.Basic
import Mathlib.Algebra.Order.BigOperators.Group.List
import RagBench.Retrieval.RankedHits

/-!
# Reciprocal rank fusion

Each ranking gives a chunk its weight, divided by `k` and the rank of the
chunk.  The shares are added up in exact arithmetic.
-/

namespace RagBench

/-- The value of a finite float. -/
def PyFloat.exact : PyFloat → ℚ
  | .finite value => value
  | _ => 0

def floatDivisionByZero : PyException :=
  ⟨.derived "ZeroDivisionError" .arithmeticError, "float division by zero"⟩

/-- `numerator / denominator`. -/
def floatDivide (numerator denominator : ℚ) : Except PyException ℚ :=
  if denominator = 0 then .error floatDivisionByZero
  else .ok (numerator / denominator)

theorem floatDivide_ok {numerator denominator : ℚ}
    (nonzero : denominator ≠ 0) :
    floatDivide numerator denominator = .ok (numerator / denominator) :=
  if_neg nonzero

/-! ## Fusion -/

/-- The loop over one ranking: the scores after its further hits. -/
def fuseHits (k : ℤ) (weight : ℚ) :
    ℕ → List String → Dict String ℚ → List SearchHit →
      Except PyException (Dict String ℚ)
  | _, _, scores, [] => .ok scores
  | expectedRank, seen, scores, hit :: rest => do
      raiseIf (hit.rank ≠ expectedRank) (.valueError
        "component ranks must be sequential and start at one")
      raiseIf (hit.chunkId ∈ seen) (.valueError
        "duplicate chunk IDs are not allowed within a ranking")
      let share ← floatDivide weight (k + hit.rank)
      fuseHits k weight (expectedRank + 1) (hit.chunkId :: seen)
        (scores.set hit.chunkId (scores.getD hit.chunkId 0 + share)) rest

/-- `resolved_weights`. -/
def resolvedWeights (rankings : List (List SearchHit))
    (weights : Option (List PyFloat)) : List PyFloat :=
  weights.getD (rankings.map fun _ => .finite 1)

def isPositiveWeight (weight : PyFloat) : Bool :=
  weight.isFinite ∧ 0 < weight.exact

def reciprocalRankFusion (rankings : List (List SearchHit)) (k : ℤ)
    (weights : Option (List PyFloat)) :
    Except PyException (List SearchHit) := do
  raiseIf (k < 0) (.valueError "k must be a nonnegative integer")
  let resolved := resolvedWeights rankings weights
  raiseIf (resolved.length ≠ rankings.length)
    (.valueError "weights length must match rankings length")
  raiseIf (resolved.any fun weight => ¬ isPositiveWeight weight)
    (.valueError "weights must be finite and positive")
  let scores ← (rankings.zip resolved).foldlM (fun scores pair =>
    fuseHits k pair.2.exact 1 [] scores pair.1) .empty
  return numberHits "rrf" (sortBy scoredKey scores.entries)

/-! ## Shares -/

/-- What a ranking gives to a chunk. -/
def rankShare (k : ℤ) (weight : ℚ) (hits : List SearchHit) (chunkId : String) :
    ℚ :=
  match hits.find? fun hit => hit.chunkId = chunkId with
  | some hit => weight / (k + hit.rank)
  | none => 0

/-- What all rankings give to a chunk. -/
def fusedScore (k : ℤ) (pairs : List (List SearchHit × PyFloat))
    (chunkId : String) : ℚ :=
  (pairs.map fun pair => rankShare k pair.2.exact pair.1 chunkId).sum

/-- The scores are these, of these chunks. -/
structure Scores (scores : Dict String ℚ) (score : String → ℚ)
    (listed : String → Prop) : Prop where
  keys : ∀ chunkId, chunkId ∈ scores.keys ↔ listed chunkId
  values : ∀ chunkId, scores.getD chunkId 0 = score chunkId

namespace Scores

variable {scores : Dict String ℚ} {score : String → ℚ}
  {listed : String → Prop}

theorem empty : Scores .empty (fun _ => 0) fun _ => False :=
  { keys := fun _ => by simp [Dict.keys, Dict.empty]
    values := fun _ => rfl }

theorem congr {score' : String → ℚ} {listed' : String → Prop}
    (of : Scores scores score listed)
    (same : ∀ chunkId, score chunkId = score' chunkId)
    (same' : ∀ chunkId, listed chunkId ↔ listed' chunkId) :
    Scores scores score' listed' :=
  { keys := fun chunkId => (of.keys chunkId).trans (same' chunkId)
    values := fun chunkId => (of.values chunkId).trans (same chunkId) }

theorem mem_entries (of : Scores scores score listed) {chunkId : String}
    {value : ℚ} :
    (chunkId, value) ∈ scores.entries ↔
      listed chunkId ∧ value = score chunkId := by
  rw [← of.keys, ← of.values]
  constructor
  · intro member
    exact ⟨List.mem_map.mpr ⟨_, member, rfl⟩,
      (scores.getD_eq_of_mem member 0).symm⟩
  · rintro ⟨member, rfl⟩
    obtain ⟨⟨_, value⟩, inside, rfl⟩ := List.mem_map.mp member
    rwa [scores.getD_eq_of_mem inside 0]

/-- The same scores have the same entries. -/
theorem entries_perm {scores' : Dict String ℚ}
    (of : Scores scores score listed) (of' : Scores scores' score listed) :
    scores.entries.Perm scores'.entries := by
  rw [List.perm_ext_iff_of_nodup scores.nodup.of_map scores'.nodup.of_map]
  rintro ⟨chunkId, value⟩
  rw [of.mem_entries, of'.mem_entries]

end Scores

/-- One more hit. -/
private theorem rankShare_cons (k : ℤ) (weight : ℚ) (hit : SearchHit)
    (hits : List SearchHit) (chunkId : String) :
    rankShare k weight (hit :: hits) chunkId =
      if hit.chunkId = chunkId then weight / (k + hit.rank)
      else rankShare k weight hits chunkId := by
  rw [rankShare]
  by_cases same : hit.chunkId = chunkId
  · rw [List.find?_cons_of_pos (by simpa using same), if_pos same]
  · rw [List.find?_cons_of_neg (by simpa using same), if_neg same, rankShare]

theorem rankShare_of_absent (k : ℤ) (weight : ℚ) {hits : List SearchHit}
    {chunkId : String} (absent : chunkId ∉ hits.map SearchHit.chunkId) :
    rankShare k weight hits chunkId = 0 := by
  have missing : hits.find? (fun hit => hit.chunkId = chunkId) = none := by
    rw [List.find?_eq_none]
    intro hit member same
    exact absent (of_decide_eq_true same ▸ List.mem_map_of_mem member)
  rw [rankShare, missing]

theorem rankShare_of_mem (k : ℤ) (weight : ℚ) {hits : List SearchHit}
    (distinct : (hits.map SearchHit.chunkId).Nodup) {hit : SearchHit}
    (member : hit ∈ hits) :
    rankShare k weight hits hit.chunkId = weight / (k + hit.rank) := by
  induction hits with
  | nil => cases member
  | cons first hits induction =>
      obtain ⟨fresh, later⟩ := List.nodup_cons.mp distinct
      rw [rankShare_cons]
      rcases List.mem_cons.mp member with rfl | inside
      · rw [if_pos rfl]
      · have other : first.chunkId ≠ hit.chunkId := fun same =>
          fresh (same ▸ List.mem_map_of_mem inside)
        rw [if_neg other, induction later inside]

/-! ## What the loops add up -/

section Loops

variable {k : ℤ} {weight : ℚ} {scores : Dict String ℚ} {score : String → ℚ}
  {listed : String → Prop}

/-- The loop over hits that are numbered from the expected rank on. -/
private theorem fuseHits_ok (nonnegative : 0 ≤ k) {expectedRank : ℕ}
    (positive : 0 < expectedRank) {seen : List String} {hits : List SearchHit}
    (ranks : hits.map SearchHit.rank =
      (List.range' expectedRank hits.length).map fun rank : ℕ => (rank : ℤ))
    (distinct : (hits.map SearchHit.chunkId).Nodup)
    (fresh : ∀ hit ∈ hits, hit.chunkId ∉ seen)
    (of : Scores scores score listed) :
    ∃ after, fuseHits k weight expectedRank seen scores hits = .ok after ∧
      Scores after
        (fun chunkId => score chunkId + rankShare k weight hits chunkId)
        fun chunkId =>
          listed chunkId ∨ chunkId ∈ hits.map SearchHit.chunkId := by
  induction hits generalizing expectedRank seen scores score listed with
  | nil =>
      refine ⟨scores, rfl, of.congr (fun _ => ?_) fun _ => ?_⟩
      · exact (add_zero _).symm
      · simp
  | cons hit hits induction =>
      rw [List.map_cons, List.length_cons, List.range'_succ, List.map_cons]
        at ranks
      obtain ⟨rank, ranks⟩ := List.cons.inj ranks
      obtain ⟨apart, distinct⟩ := List.nodup_cons.mp distinct
      obtain ⟨new, fresh⟩ := List.forall_mem_cons.mp fresh
      have nonzero : (k : ℚ) + hit.rank ≠ 0 := by
        have sum : 0 < k + hit.rank := by
          rw [rank]
          omega
        exact_mod_cast sum.ne'
      have added : Scores
          (scores.set hit.chunkId
            (scores.getD hit.chunkId 0 + weight / (k + hit.rank)))
          (fun chunkId => score chunkId +
            if hit.chunkId = chunkId then weight / (k + hit.rank) else 0)
          fun chunkId => listed chunkId ∨ chunkId = hit.chunkId :=
        { keys := fun chunkId => by
            rw [Dict.mem_keys_set, of.keys, or_comm]
          values := fun chunkId => by
            rw [Dict.getD_set, of.values, of.values]
            split_ifs with same
            · rw [same]
            · rw [add_zero] }
      have later : ∀ other ∈ hits, other.chunkId ∉ hit.chunkId :: seen := by
        intro other member inside
        rcases List.mem_cons.mp inside with same | before
        · exact apart (same ▸ List.mem_map_of_mem member)
        · exact fresh other member before
      obtain ⟨after, looped, of'⟩ := induction (Nat.succ_pos _) ranks distinct
        later added
      refine ⟨after, ?_, of'.congr (fun chunkId => ?_) fun chunkId => ?_⟩
      · rw [fuseHits, raiseIf_bind (not_not.mpr rank), raiseIf_bind new,
          floatDivide_ok nonzero]
        exact looped
      · rw [rankShare_cons, add_assoc]
        by_cases same : hit.chunkId = chunkId
        · rw [if_pos same, if_pos same,
            rankShare_of_absent k weight (same ▸ apart), add_zero]
        · rw [if_neg same, if_neg same, zero_add]
      · rw [List.map_cons, List.mem_cons, or_assoc]

/-- The loop over the rankings. -/
private theorem fuse_ok (nonnegative : 0 ≤ k)
    {pairs : List (List SearchHit × PyFloat)}
    (rankings : ∀ pair ∈ pairs, IsRanking pair.1)
    (of : Scores scores score listed) :
    ∃ after, pairs.foldlM (fun scores pair =>
        fuseHits k pair.2.exact 1 [] scores pair.1) scores = .ok after ∧
      Scores after (fun chunkId => score chunkId + fusedScore k pairs chunkId)
        fun chunkId => listed chunkId ∨
          ∃ pair ∈ pairs, chunkId ∈ pair.1.map SearchHit.chunkId := by
  induction pairs generalizing scores score listed with
  | nil =>
      refine ⟨scores, rfl, of.congr (fun _ => ?_) fun _ => ?_⟩
      · exact (add_zero _).symm
      · simp
  | cons pair pairs induction =>
      obtain ⟨first, later⟩ := List.forall_mem_cons.mp rankings
      obtain ⟨next, looped, of'⟩ := @fuseHits_ok k pair.2.exact _ _ _
        nonnegative 1 Nat.one_pos [] pair.1 first.ranks first.distinct
        (fun _ _ => List.not_mem_nil) of
      obtain ⟨after, others, of''⟩ := induction later of'
      refine ⟨after, ?_, of''.congr (fun chunkId => ?_) fun chunkId => ?_⟩
      · rw [List.foldlM_cons, looped]
        exact others
      · rw [fusedScore, fusedScore, List.map_cons, List.sum_cons, add_assoc]
      · rw [or_assoc, List.exists_mem_cons_iff]

end Loops

/-! ## The fused ranking -/

/-- What the fusion is called with. -/
structure FusionInput (rankings : List (List SearchHit)) (k : ℤ)
    (weights : Option (List PyFloat)) : Prop where
  nonnegative : 0 ≤ k
  ranked : ∀ hits ∈ rankings, IsRanking hits
  weighted : (resolvedWeights rankings weights).length = rankings.length
  positive : ∀ weight ∈ resolvedWeights rankings weights,
    isPositiveWeight weight = true

/-- The rankings with their weights. -/
def weightedRankings (rankings : List (List SearchHit))
    (weights : Option (List PyFloat)) : List (List SearchHit × PyFloat) :=
  rankings.zip (resolvedWeights rankings weights)

section Fused

variable {rankings : List (List SearchHit)} {k : ℤ}
  {weights : Option (List PyFloat)}

theorem FusionInput.map_fst (input : FusionInput rankings k weights) :
    (weightedRankings rankings weights).map Prod.fst = rankings :=
  List.map_fst_zip input.weighted.ge

theorem FusionInput.mem_rankings (input : FusionInput rankings k weights)
    {pair : List SearchHit × PyFloat}
    (member : pair ∈ weightedRankings rankings weights) :
    pair.1 ∈ rankings :=
  input.map_fst ▸ List.mem_map_of_mem member

/-- The fused hits are the scored chunks in their order. -/
theorem exists_scores (input : FusionInput rankings k weights) :
    ∃ scores : Dict String ℚ,
      reciprocalRankFusion rankings k weights =
          .ok (numberHits "rrf" (sortBy scoredKey scores.entries)) ∧
        Scores scores (fusedScore k (weightedRankings rankings weights))
          fun chunkId => ∃ hits ∈ rankings,
            chunkId ∈ hits.map SearchHit.chunkId := by
  have ranked : ∀ pair ∈ weightedRankings rankings weights,
      IsRanking pair.1 := fun pair member =>
    input.ranked pair.1 (input.mem_rankings member)
  obtain ⟨scores, looped, of⟩ :=
    fuse_ok input.nonnegative ranked Scores.empty
  refine ⟨scores, ?_, of.congr (fun _ => zero_add _) fun chunkId => ?_⟩
  · have positive : ¬ ((resolvedWeights rankings weights).any
        fun weight => ¬ isPositiveWeight weight) = true := by
      rw [List.any_eq_true]
      rintro ⟨weight, member, bad⟩
      exact of_decide_eq_true bad (input.positive weight member)
    rw [reciprocalRankFusion, raiseIf_bind (not_lt.mpr input.nonnegative)]
    dsimp only
    rw [raiseIf_bind (not_not.mpr input.weighted), raiseIf_bind positive]
    rw [weightedRankings] at looped
    rw [looped]
    rfl
  · rw [false_or]
    constructor
    · rintro ⟨pair, member, inside⟩
      exact ⟨pair.1, input.mem_rankings member, inside⟩
    · rintro ⟨hits, member, inside⟩
      rw [← input.map_fst] at member
      obtain ⟨pair, listed, rfl⟩ := List.mem_map.mp member
      exact ⟨pair, listed, inside⟩

/-- A ranking that has the second chunk gives more to the first one. -/
private theorem rankShare_le {pair : List SearchHit × PyFloat}
    (nonnegative : 0 ≤ k) (ranking : IsRanking pair.1)
    (positive : isPositiveWeight pair.2 = true) {first second : String}
    (above : ∀ hit ∈ pair.1, hit.chunkId = second →
      ∃ better ∈ pair.1, better.chunkId = first ∧ better.rank < hit.rank) :
    rankShare k pair.2.exact pair.1 second ≤
        rankShare k pair.2.exact pair.1 first ∧
      (second ∈ pair.1.map SearchHit.chunkId →
        rankShare k pair.2.exact pair.1 second <
          rankShare k pair.2.exact pair.1 first) := by
  simp only [isPositiveWeight, decide_eq_true_eq] at positive
  have rank_positive : ∀ hit ∈ pair.1, 0 < (k : ℚ) + hit.rank := by
    intro hit member
    have listed : hit.rank ∈ pair.1.map SearchHit.rank :=
      List.mem_map_of_mem member
    rw [ranking.ranks, List.mem_map] at listed
    obtain ⟨rank, inside, same⟩ := listed
    have one := (List.mem_range'_1.mp inside).1
    rw [← same]
    have sum : 0 < k + (rank : ℤ) := by omega
    exact_mod_cast sum
  by_cases present : second ∈ pair.1.map SearchHit.chunkId
  · obtain ⟨hit, member, rfl⟩ := List.mem_map.mp present
    obtain ⟨better, member', rfl, less⟩ := above hit member rfl
    have strict : rankShare k pair.2.exact pair.1 hit.chunkId <
        rankShare k pair.2.exact pair.1 better.chunkId := by
      rw [rankShare_of_mem k _ ranking.distinct member,
        rankShare_of_mem k _ ranking.distinct member']
      refine div_lt_div_of_pos_left positive.2 (rank_positive better member') ?_
      exact add_lt_add_right (Int.cast_lt.mpr less) _
    exact ⟨strict.le, fun _ => strict⟩
  · rw [rankShare_of_absent k _ present]
    refine ⟨?_, fun inside => absurd inside present⟩
    rw [rankShare]
    split
    · next hit found =>
        exact div_nonneg positive.2.le
          (rank_positive hit (List.mem_of_find?_eq_some found)).le
    · exact le_rfl

/-- What the fused ranking owes to the rankings. -/
structure FusesRankings (rankings : List (List SearchHit)) (k : ℤ)
    (weights : Option (List PyFloat)) (fused : List SearchHit) : Prop where
  ranking : IsRanking fused
  union : ∀ chunkId, chunkId ∈ fused.map SearchHit.chunkId ↔
    ∃ hits ∈ rankings, chunkId ∈ hits.map SearchHit.chunkId
  scores : ∀ hit ∈ fused, hit.score =
    .finite (fusedScore k (weightedRankings rankings weights) hit.chunkId)
  ordered : fused.Pairwise SearchHit.Precedes
  unanimous : ∀ first ∈ fused, ∀ second ∈ fused,
    (∀ hits ∈ rankings, ∀ hit ∈ hits, hit.chunkId = second.chunkId →
      ∃ better ∈ hits, better.chunkId = first.chunkId ∧
        better.rank < hit.rank) → first.rank < second.rank

/-- The fusion ranks the union of the rankings by the sums of the shares. -/
theorem exists_fused (input : FusionInput rankings k weights) :
    ∃ fused, reciprocalRankFusion rankings k weights = .ok fused ∧
      FusesRankings rankings k weights fused := by
  obtain ⟨scores, fused, of⟩ := exists_scores input
  have distinct := scores.nodup
  have permuted := sortBy_perm scoredKey scores.entries
  have ranking : IsRanking
      (numberHits "rrf" (sortBy scoredKey scores.entries)) :=
    isRanking_numberHits _ ((permuted.map Prod.fst).nodup_iff.mpr distinct)
  have ordered := precedes_numberHits "rrf" distinct
  have union (chunkId : String) : chunkId ∈
      (numberHits "rrf" (sortBy scoredKey scores.entries)).map
        SearchHit.chunkId ↔
      ∃ hits ∈ rankings, chunkId ∈ hits.map SearchHit.chunkId := by
    rw [map_chunkId_numberHits, (permuted.map Prod.fst).mem_iff]
    exact of.keys chunkId
  have score : ∀ hit ∈ numberHits "rrf" (sortBy scoredKey scores.entries),
      hit.score = .finite (fusedScore k (weightedRankings rankings weights)
        hit.chunkId) := by
    intro hit member
    obtain ⟨value, listed, same, -⟩ := mem_numberHits member
    rw [same, (of.mem_entries.mp (permuted.mem_iff.mp listed)).2]
  refine ⟨_, fused, ranking, union, score, ordered, ?_⟩
  intro first member second member' above
  refine rank_lt_of_score_lt ranking ordered member member'
    (score first member) (score second member') ?_
  have shares : ∀ pair ∈ weightedRankings rankings weights,
      rankShare k pair.2.exact pair.1 second.chunkId ≤
          rankShare k pair.2.exact pair.1 first.chunkId ∧
        (second.chunkId ∈ pair.1.map SearchHit.chunkId →
          rankShare k pair.2.exact pair.1 second.chunkId <
            rankShare k pair.2.exact pair.1 first.chunkId) := by
    intro pair inside
    have listed := input.mem_rankings inside
    exact rankShare_le input.nonnegative (input.ranked _ listed)
      (input.positive _ (List.of_mem_zip inside).2) (above _ listed)
  obtain ⟨hits, listed, present⟩ := (union second.chunkId).mp
    (List.mem_map_of_mem member')
  rw [← input.map_fst] at listed
  obtain ⟨pair, inside, rfl⟩ := List.mem_map.mp listed
  exact List.sum_lt_sum _ _ (fun pair inside => (shares pair inside).1)
    ⟨pair, inside, (shares pair inside).2 present⟩

/-- The order of the weighted rankings does not matter. -/
private theorem fusion_perm (input : FusionInput rankings k weights)
    {rankings' : List (List SearchHit)} {weights' : Option (List PyFloat)}
    (input' : FusionInput rankings' k weights')
    (moved : (weightedRankings rankings weights).Perm
      (weightedRankings rankings' weights')) :
    reciprocalRankFusion rankings' k weights' =
      reciprocalRankFusion rankings k weights := by
  obtain ⟨scores, fused, of⟩ := exists_scores input
  obtain ⟨scores', fused', of'⟩ := exists_scores input'
  have perm : rankings.Perm rankings' :=
    input.map_fst ▸ input'.map_fst ▸ moved.map Prod.fst
  have alike : Scores scores'
      (fusedScore k (weightedRankings rankings weights)) fun chunkId =>
        ∃ hits ∈ rankings, chunkId ∈ hits.map SearchHit.chunkId :=
    of'.congr (fun chunkId => (moved.map _).sum_eq.symm) fun chunkId => by
      simp only [perm.mem_iff]
  rw [fused, fused', sortBy_eq_of_perm (scoredKey_nodup scores'.nodup)
    (alike.entries_perm of)]

/-- The fusion is a ranking of the union; it divides by no zero and depends on
no order of the rankings. -/
theorem fusion_aggregates_ranks (input : FusionInput rankings k weights) :
    (∃ fused, reciprocalRankFusion rankings k weights = .ok fused ∧
        FusesRankings rankings k weights fused) ∧
      ∀ rankings' weights', FusionInput rankings' k weights' →
        (weightedRankings rankings weights).Perm
          (weightedRankings rankings' weights') →
        reciprocalRankFusion rankings' k weights' =
          reciprocalRankFusion rankings k weights :=
  ⟨exists_fused input, fun _ _ input' moved => fusion_perm input input' moved⟩

end Fused

def sampleHit (chunkId : String) (rank : ℤ) : SearchHit :=
  { chunkId := chunkId
    score := .finite 1
    rank := rank
    retriever := "test" }

/-- Two rankings with one chunk in common. -/
def sampleRankings : List (List SearchHit) :=
  [[sampleHit "a" 1, sampleHit "b" 2], [sampleHit "b" 1, sampleHit "c" 2]]

theorem fusion_aggregates_ranks_sample :
    ∃ fused, reciprocalRankFusion sampleRankings 60 none = .ok fused ∧
      FusesRankings sampleRankings 60 none fused := by
  refine (fusion_aggregates_ranks ?_).1
  refine ⟨by decide, fun hits member => ?_, rfl, by decide +kernel⟩
  simp only [sampleRankings, List.mem_cons, List.not_mem_nil, or_false]
    at member
  rcases member with rfl | rfl
  · exact ⟨rfl, by decide⟩
  · exact ⟨rfl, by decide⟩

end RagBench
