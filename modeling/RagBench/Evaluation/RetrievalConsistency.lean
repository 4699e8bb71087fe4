import Mathlib.Data.Nat.Cast.Basic
import RagBench.Evaluation.Retrieval

/-!
# Consistency of the retrieval metrics

The metrics of a question and the aggregates over questions have closed forms
in which no division fails.  The overall aggregate combines those of the types.
Nothing depends on the order of the questions, and hits and recall only grow
with the number of hits that count.
-/

namespace RagBench

/-! ## One question -/

def RetrievalCase.evidence (question : RetrievalCase) : Finset String :=
  question.evidenceChunkIds.toFinset

/-- The pieces of evidence among the first hits. -/
def RetrievalCase.retrieved (question : RetrievalCase) (k : ℤ) : ℕ :=
  (question.rankedChunkIds.take k.toNat).countP (· ∈ question.evidence)

def RetrievalCase.isScorable (question : RetrievalCase) : Bool :=
  0 < question.evidence.card

/-- A value that questions without evidence lack. -/
def RetrievalCase.scored (question : RetrievalCase) (value : ℚ) : Option ℚ :=
  average value (if question.isScorable then 1 else 0)

def reciprocalOf (evidence : Finset String) : List String → ℕ → ℚ
  | [], _ => 0
  | chunkId :: rest, rank =>
      if chunkId ∈ evidence then 1 / rank
      else reciprocalOf evidence rest (rank + 1)

/-- The metric that a question gets. -/
def RetrievalCase.metricAt (k : ℤ) (question : RetrievalCase) :
    RetrievalMetric :=
  { questionId := question.questionId
    questionType := question.questionType
    k := k
    evidenceCount := question.evidence.card
    retrievedEvidenceCount := question.retrieved k
    hitAtK := question.scored (if 0 < question.retrieved k then 1 else 0)
    evidenceRecallAtK := average (question.retrieved k) question.evidence.card
    mrr := question.scored
      (reciprocalOf question.evidence question.rankedChunkIds 1)
    latencyMs := question.latencyMs }

theorem divide_count_ok {total : ℚ} {count : ℕ} (positive : 0 < count) :
    divide total count = .ok (total / count) :=
  divide_ok (Nat.cast_ne_zero.mpr positive.ne')

theorem reciprocalRank_ok (evidence : Finset String) (ids : List String)
    {rank : ℕ} (positive : 0 < rank) :
    reciprocalRank evidence ids rank = .ok (reciprocalOf evidence ids rank) :=
    by
  induction ids generalizing rank with
  | nil => rfl
  | cons chunkId rest induction =>
      rw [reciprocalRank, reciprocalOf]
      split_ifs
      · exact divide_count_ok positive
      · exact induction (Nat.succ_pos rank)

theorem reciprocalOf_inUnit (evidence : Finset String) (ids : List String)
    {rank : ℕ} (positive : 0 < rank) :
    0 ≤ reciprocalOf evidence ids rank ∧ reciprocalOf evidence ids rank ≤ 1 :=
    by
  induction ids generalizing rank with
  | nil => simp [reciprocalOf]
  | cons chunkId rest induction =>
      rw [reciprocalOf]
      split_ifs
      · have whole : (1 : ℚ) ≤ rank := by exact_mod_cast positive
        refine ⟨by positivity, ?_⟩
        rw [div_le_one (by positivity)]
        exact whole
      · exact induction (Nat.succ_pos rank)

theorem RetrievalCase.retrieved_le (question : RetrievalCase) (k : ℤ) :
    question.retrieved k ≤ question.evidence.card := by
  have distinct : ((question.rankedChunkIds.take k.toNat).filter
      (· ∈ question.evidence)).Nodup :=
    (question.ranked_nodup.sublist (List.take_sublist _ _)).filter _
  rw [RetrievalCase.retrieved, List.countP_eq_length_filter,
    ← List.toFinset_card_of_nodup distinct]
  apply Finset.card_le_card
  intro chunkId member
  simpa using (List.mem_filter.mp (List.mem_toFinset.mp member)).2

theorem RetrievalCase.retrieved_mono (question : RetrievalCase) {k wider : ℤ}
    (le : k ≤ wider) : question.retrieved k ≤ question.retrieved wider := by
  apply List.Sublist.countP_le
  exact (List.take_prefix_take_left (Int.toNat_le_toNat le)).sublist

theorem evaluateRetrieval_eq (k : ℤ) (question : RetrievalCase) :
    evaluateRetrieval k question =
      if k ≤ 0 then .error (.valueError "k must be a positive integer")
      else .ok (question.metricAt k) := by
  rw [evaluateRetrieval, raiseIf]
  by_cases nonpositive : k ≤ 0
  · rw [if_pos nonpositive, if_pos nonpositive]
    rfl
  · rw [if_neg nonpositive, if_neg nonpositive]
    change (if question.evidence = ∅ then _ else
      reciprocalRank question.evidence question.rankedChunkIds 1 >>=
        fun reciprocal => divide (question.retrieved k) question.evidence.card
          >>= fun share => _) = _
    by_cases none : question.evidence = ∅
    · have count : question.retrieved k = 0 := by
        simpa [none] using question.retrieved_le k
      rw [if_pos none]
      simp [RetrievalCase.metricAt, RetrievalCase.scored, none, count, average,
        RetrievalCase.isScorable]
      rfl
    · have some : 0 < question.evidence.card :=
        Finset.card_pos.mpr (Finset.nonempty_iff_ne_empty.mpr none)
      rw [if_neg none, reciprocalRank_ok _ _ Nat.one_pos, divide_count_ok some]
      simp only [RetrievalCase.metricAt, RetrievalCase.scored, some,
        average, RetrievalCase.isScorable, some.ne', decide_true, if_true,
        if_false, one_ne_zero, Nat.cast_one, div_one]
      rfl

/-! ## Some questions -/

/-- The aggregate that some rows get. -/
def RetrievalAggregate.of (rows : List RetrievalMetric) : RetrievalAggregate :=
  let scored := rows.filter RetrievalMetric.isScorable
  { questionCount := rows.length
    scorableCount := scored.length
    noEvidenceCount := rows.length - scored.length
    macroHitAtK := average (totalOf RetrievalMetric.hitAtK scored) scored.length
    macroEvidenceRecallAtK :=
      average (totalOf RetrievalMetric.evidenceRecallAtK scored) scored.length
    microEvidenceRecallAtK :=
      average (scored.map RetrievalMetric.retrievedEvidenceCount).sum
        (scored.map RetrievalMetric.evidenceCount).sum
    macroMrr := average (totalOf RetrievalMetric.mrr scored) scored.length
    meanLatencyMs :=
      average (rows.map RetrievalMetric.latencyMs).sum rows.length }

theorem evidence_sum_pos {rows : List RetrievalMetric}
    (scorable : ∀ row ∈ rows, row.isScorable) (some : rows ≠ []) :
    0 < (rows.map RetrievalMetric.evidenceCount).sum := by
  cases rows with
  | nil => exact absurd rfl some
  | cons row rest =>
      have first : 0 < row.evidenceCount := by
        simpa [RetrievalMetric.isScorable] using
          scorable row List.mem_cons_self
      rw [List.map_cons, List.sum_cons]
      omega

theorem meanLatency_ok (rows : List RetrievalMetric) :
    meanLatency rows = .ok
      (average (rows.map RetrievalMetric.latencyMs).sum rows.length) := by
  rw [meanLatency, average]
  by_cases empty : rows = []
  · rw [if_pos empty, if_pos (by simp [empty])]
  · have positive := List.length_pos_iff.mpr empty
    rw [if_neg empty, divide_count_ok positive, if_neg positive.ne']
    rfl

theorem aggregateRows_ok (rows : List RetrievalMetric) :
    aggregateRows rows = .ok (RetrievalAggregate.of rows) := by
  rw [aggregateRows, meanLatency_ok]
  by_cases empty : rows.filter RetrievalMetric.isScorable = []
  · simp [RetrievalAggregate.of, empty, average, bind, Except.bind, pure,
      Except.pure]
  · have positive := List.length_pos_iff.mpr empty
    have evidence := evidence_sum_pos
      (fun row member => (List.mem_filter.mp member).2) empty
    change (if _ = [] then _ else _) = _
    rw [if_neg empty]
    dsimp only
    rw [divide_count_ok positive, divide_count_ok positive,
      divide_count_ok evidence, divide_count_ok positive]
    simp only [RetrievalAggregate.of, average, positive.ne', evidence.ne',
      if_false]
    rfl

theorem RetrievalAggregate.of_perm {rows others : List RetrievalMetric}
    (permuted : rows.Perm others) :
    RetrievalAggregate.of rows = .of others := by
  have scored := permuted.filter RetrievalMetric.isScorable
  have total (read : RetrievalMetric → Option ℚ) :
      totalOf read (rows.filter RetrievalMetric.isScorable) =
        totalOf read (others.filter RetrievalMetric.isScorable) :=
    (scored.map _).sum_eq
  simp only [RetrievalAggregate.of, permuted.length_eq, scored.length_eq, total,
    (scored.map RetrievalMetric.retrievedEvidenceCount).sum_eq,
    (scored.map RetrievalMetric.evidenceCount).sum_eq,
    (permuted.map RetrievalMetric.latencyMs).sum_eq]

/-! ## All questions -/

def retrievalTypes (rows : List RetrievalMetric) : List String :=
  sortBy id (groupInto RetrievalMetric.questionType .empty rows).keys

/-- The rows of a question type. -/
def rowsOfType (rows : List RetrievalMetric) (name : String) :
    List RetrievalMetric :=
  rows.filter fun row => row.questionType = name

/-- The evaluation of some rows. -/
def RetrievalEvaluation.of (k : ℤ) (rows : List RetrievalMetric) :
    RetrievalEvaluation :=
  let ordered := sortBy RetrievalMetric.questionId rows
  { k := k
    overall := RetrievalAggregate.of rows
    byQuestionType := .ofList ((retrievalTypes rows).map fun name =>
      (name, RetrievalAggregate.of (rowsOfType rows name)))
    questionMetrics := ordered
    bootstrapInputs := (ordered.filter RetrievalMetric.isScorable).map
      RetrievalMetric.bootstrapInput }

theorem retrievalTypes_nodup (rows : List RetrievalMetric) :
    (retrievalTypes rows).Nodup :=
  (sortBy_perm _ _).nodup_iff.mpr (groupInto _ _ rows).nodup

theorem mem_retrievalTypes {rows : List RetrievalMetric} {name : String} :
    name ∈ retrievalTypes rows ↔ ∃ row ∈ rows, row.questionType = name := by
  rw [retrievalTypes, (sortBy_perm _ _).mem_iff, mem_keys_groupInto]
  simp [Dict.keys, Dict.empty]

/-- The types depend on which of them occur. -/
theorem retrievalTypes_eq {rows others : List RetrievalMetric}
    (same : ∀ name, name ∈ retrievalTypes rows ↔ name ∈ retrievalTypes others) :
    retrievalTypes rows = retrievalTypes others := by
  have permuted : (retrievalTypes rows).Perm (retrievalTypes others) :=
    (List.perm_ext_iff_of_nodup (retrievalTypes_nodup rows)
      (retrievalTypes_nodup others)).mpr same
  have sorted (rows : List RetrievalMetric) :
      sortBy id (retrievalTypes rows) = retrievalTypes rows :=
    sortBy_eq_self (sortBy_pairwise id _)
  rw [← sorted rows, ← sorted others]
  exact sortBy_eq_of_perm (by simpa using retrievalTypes_nodup rows) permuted

theorem RetrievalEvaluation.of_perm {rows others : List RetrievalMetric} (k : ℤ)
    (distinct : (rows.map RetrievalMetric.questionId).Nodup)
    (permuted : rows.Perm others) :
    RetrievalEvaluation.of k rows = RetrievalEvaluation.of k others := by
  have part (name : String) : RetrievalAggregate.of (rowsOfType rows name) =
      RetrievalAggregate.of (rowsOfType others name) :=
    RetrievalAggregate.of_perm (permuted.filter _)
  have types : retrievalTypes rows = retrievalTypes others := by
    apply retrievalTypes_eq
    intro name
    rw [mem_retrievalTypes, mem_retrievalTypes]
    simp only [permuted.mem_iff]
  simp only [RetrievalEvaluation.of, RetrievalAggregate.of_perm permuted,
    types, part, sortBy_eq_of_perm distinct permuted]

theorem RetrievalEvaluation.of_entries (k : ℤ) (rows : List RetrievalMetric) :
    (RetrievalEvaluation.of k rows).byQuestionType.entries =
      (retrievalTypes rows).map fun name =>
        (name, RetrievalAggregate.of (rowsOfType rows name)) := by
  apply Dict.entries_ofList
  rw [List.map_map]
  exact (List.map_id _).symm ▸ retrievalTypes_nodup rows

theorem RetrievalEvaluation.of_values (k : ℤ) (rows : List RetrievalMetric) :
    (RetrievalEvaluation.of k rows).byQuestionType.values =
      (retrievalTypes rows).map fun name =>
        RetrievalAggregate.of (rowsOfType rows name) := by
  rw [Dict.values, RetrievalEvaluation.of_entries, List.map_map]
  rfl

theorem aggregateType_ok (rows : List RetrievalMetric) (name : String) :
    aggregateType (groupInto RetrievalMetric.questionType .empty rows) name =
      .ok (name, RetrievalAggregate.of (rowsOfType rows name)) := by
  have group := getD_groupInto RetrievalMetric.questionType .empty rows name
  rw [aggregateType, group, aggregateRows_ok]
  rfl

/-- The metrics of some questions at a cutoff. -/
def metricsAt (k : ℤ) (cases : List RetrievalCase) : List RetrievalMetric :=
  cases.map (RetrievalCase.metricAt k)

theorem evaluations_ok {k : ℤ} {cases : List RetrievalCase}
    (accepted : 0 < k ∨ cases = []) :
    cases.mapM (evaluateRetrieval k) = .ok (metricsAt k cases) := by
  rw [mapM_eq_ok, metricsAt, List.forall₂_map_right_iff]
  apply List.forall₂_same.mpr
  intro question member
  rcases accepted with positive | rfl
  · rw [evaluateRetrieval_eq, if_neg (not_le.mpr positive)]
  · cases member

theorem aggregateRetrieval_eq (cases : List RetrievalCase) (k : ℤ) :
    aggregateRetrieval cases k =
      if ¬ (cases.map RetrievalCase.questionId).Nodup then
        .error (.valueError "retrieval case question IDs must be unique")
      else if 0 < k ∨ cases = [] then
        .ok (.of k (metricsAt k cases))
      else .error (.valueError "k must be a positive integer") := by
  rw [aggregateRetrieval, raiseIf]
  by_cases unique : (cases.map RetrievalCase.questionId).Nodup
  · rw [if_neg (not_not.mpr unique), if_neg (not_not.mpr unique)]
    change (cases.mapM (evaluateRetrieval k) >>= fun rows => _) = _
    by_cases accepted : 0 < k ∨ cases = []
    · have types : (retrievalTypes (metricsAt k cases)).mapM
          (aggregateType (groupInto RetrievalMetric.questionType .empty
            (metricsAt k cases))) =
          .ok ((retrievalTypes (metricsAt k cases)).map fun name =>
            (name, RetrievalAggregate.of
              (rowsOfType (metricsAt k cases) name))) := by
        rw [mapM_eq_ok, List.forall₂_map_right_iff]
        apply List.forall₂_same.mpr
        intro name _
        exact aggregateType_ok _ name
      rw [evaluations_ok accepted, if_pos accepted]
      change (aggregateRows (metricsAt k cases) >>= fun overall =>
        (retrievalTypes (metricsAt k cases)).mapM _ >>= fun _ => _) = _
      rw [aggregateRows_ok, types]
      rfl
    · rw [if_neg accepted]
      cases cases with
      | nil => exact absurd (.inr rfl) accepted
      | cons question rest =>
          have nonpositive : k ≤ 0 :=
            not_lt.mp fun positive => accepted (.inl positive)
          rw [List.mapM_cons, evaluateRetrieval_eq, if_pos nonpositive]
          rfl
  · rw [if_pos unique, if_pos unique]
    rfl

/-! ## Bounds -/

/-- The values of an aggregate that lie in the unit interval. -/
def RetrievalAggregate.rates (aggregate : RetrievalAggregate) :
    List (Option ℚ) :=
  [aggregate.macroHitAtK, aggregate.macroEvidenceRecallAtK,
    aggregate.microEvidenceRecallAtK, aggregate.macroMrr]

/-- The rates of a metric, with no more evidence retrieved than there is. -/
structure RetrievalMetric.Bounded (row : RetrievalMetric) : Prop where
  hit : InUnit row.hitAtK
  evidenceRecall : InUnit row.evidenceRecallAtK
  mrr : InUnit row.mrr
  retrieved : row.retrievedEvidenceCount ≤ row.evidenceCount

theorem RetrievalCase.metricAt_bounded (k : ℤ) (question : RetrievalCase) :
    (question.metricAt k).Bounded := by
  have scored {value : ℚ} (low : 0 ≤ value) (high : value ≤ 1) :
      InUnit (question.scored value) := by
    rw [RetrievalCase.scored]
    split_ifs
    · exact average_inUnit low (by simpa using high)
    · intro number member
      simp [average] at member
  have share : (question.retrieved k : ℚ) ≤ question.evidence.card := by
    exact_mod_cast question.retrieved_le k
  have reciprocal := reciprocalOf_inUnit question.evidence
    question.rankedChunkIds Nat.one_pos
  constructor
  · apply scored
    · split_ifs <;> simp
    · split_ifs <;> simp
  · exact average_inUnit (Nat.cast_nonneg _) share
  · exact scored reciprocal.1 reciprocal.2
  · exact question.retrieved_le k

theorem RetrievalAggregate.of_inUnit {rows : List RetrievalMetric}
    (bounded : ∀ row ∈ rows, row.Bounded) :
    ∀ rate ∈ (RetrievalAggregate.of rows).rates, InUnit rate := by
  have scored : ∀ row ∈ rows.filter RetrievalMetric.isScorable, row.Bounded :=
    fun row member => bounded row (List.mem_filter.mp member).1
  have mean {read : RetrievalMetric → Option ℚ}
      (unit : ∀ row : RetrievalMetric, row.Bounded → InUnit (read row)) :
      InUnit (average
        (totalOf read (rows.filter RetrievalMetric.isScorable))
        (rows.filter RetrievalMetric.isScorable).length) := by
    have values : ∀ value ∈
        (rows.filter RetrievalMetric.isScorable).map read, InUnit value := by
      intro value member
      obtain ⟨row, listed, rfl⟩ := List.mem_map.mp member
      exact unit row (scored row listed)
    obtain ⟨low, high⟩ := sum_inUnit values
    rw [List.map_map] at low high
    rw [List.length_map] at high
    exact average_inUnit low high
  have share : ((rows.filter RetrievalMetric.isScorable).map
      RetrievalMetric.retrievedEvidenceCount).sum ≤
      ((rows.filter RetrievalMetric.isScorable).map
        RetrievalMetric.evidenceCount).sum :=
    List.sum_le_sum fun row member => (scored row member).retrieved
  intro rate member
  simp only [RetrievalAggregate.rates, List.mem_cons, List.not_mem_nil,
    or_false] at member
  rcases member with rfl | rfl | rfl | rfl
  · exact mean fun row bounded => bounded.hit
  · exact mean fun row bounded => bounded.evidenceRecall
  · exact average_inUnit (Nat.cast_nonneg _) (by exact_mod_cast share)
  · exact mean fun row bounded => bounded.mrr

/-! ## Types -/

/-- The evidence of the questions of a type. -/
def RetrievalEvaluation.evidenceOf (evaluation : RetrievalEvaluation)
    (name : String) : ℕ :=
  ((rowsOfType evaluation.questionMetrics name).map
    RetrievalMetric.evidenceCount).sum

/-- A value of each type with the number of its scorable questions. -/
def RetrievalEvaluation.byScorable (evaluation : RetrievalEvaluation)
    (read : RetrievalAggregate → Option ℚ) : List (ℕ × Option ℚ) :=
  evaluation.byQuestionType.values.map fun aggregate =>
    (aggregate.scorableCount, read aggregate)

/-- A count is that of the types together. -/
def RetrievalEvaluation.AddsUp (evaluation : RetrievalEvaluation)
    (count : RetrievalAggregate → ℕ) : Prop :=
  count evaluation.overall = (evaluation.byQuestionType.values.map count).sum

/-- Rates are in the unit interval, and the overall aggregate combines those
of the types. -/
structure RetrievalEvaluation.Consistent (evaluation : RetrievalEvaluation) :
    Prop where
  metrics : ∀ row ∈ evaluation.questionMetrics, row.Bounded
  aggregates : ∀ aggregate ∈
    evaluation.overall :: evaluation.byQuestionType.values,
    (∀ rate ∈ aggregate.rates, InUnit rate) ∧
      aggregate.scorableCount + aggregate.noEvidenceCount =
        aggregate.questionCount
  macroHit : IsWeightedMean evaluation.overall.macroHitAtK
    (evaluation.byScorable RetrievalAggregate.macroHitAtK)
  macroRecall : IsWeightedMean evaluation.overall.macroEvidenceRecallAtK
    (evaluation.byScorable RetrievalAggregate.macroEvidenceRecallAtK)
  macroMrr : IsWeightedMean evaluation.overall.macroMrr
    (evaluation.byScorable RetrievalAggregate.macroMrr)
  microRecall : IsWeightedMean evaluation.overall.microEvidenceRecallAtK
    (evaluation.byQuestionType.entries.map fun entry =>
      (evaluation.evidenceOf entry.1, entry.2.microEvidenceRecallAtK))
  questions : evaluation.AddsUp RetrievalAggregate.questionCount
  scorable : evaluation.AddsUp RetrievalAggregate.scorableCount
  noEvidence : evaluation.AddsUp RetrievalAggregate.noEvidenceCount

/-- What the parts of a list by type add up to. -/
theorem sum_rowsOfType {M : Type} [AddCommMonoid M]
    (rows : List RetrievalMetric) (keep : RetrievalMetric → Bool)
    (value : RetrievalMetric → M) :
    ((retrievalTypes rows).map fun name =>
      (((rowsOfType rows name).filter keep).map value).sum).sum =
      ((rows.filter keep).map value).sum := by
  have within : ∀ row ∈ rows.filter keep,
      row.questionType ∈ retrievalTypes rows := fun row member =>
    mem_retrievalTypes.mpr ⟨row, (List.mem_filter.mp member).1, rfl⟩
  rw [← sum_filter_keys _ (retrievalTypes_nodup rows) within]
  refine congrArg List.sum (List.map_congr_left fun name _ => ?_)
  rw [rowsOfType, List.filter_comm]

theorem length_rowsOfType (rows : List RetrievalMetric)
    (keep : RetrievalMetric → Bool) :
    ((retrievalTypes rows).map fun name =>
      ((rowsOfType rows name).filter keep).length).sum =
      (rows.filter keep).length := by
  have counted := sum_rowsOfType rows keep fun _ => 1
  simpa only [List.map_const', List.sum_replicate, smul_eq_mul, mul_one]
    using counted

/-- A mean over the scorable rows combines those of the types. -/
theorem macro_weighted (k : ℤ) (rows : List RetrievalMetric)
    (read : RetrievalMetric → Option ℚ)
    {shown : RetrievalAggregate → Option ℚ}
    (same : ∀ rows, shown (.of rows) = average
      (totalOf read (rows.filter RetrievalMetric.isScorable))
      (rows.filter RetrievalMetric.isScorable).length) :
    IsWeightedMean (shown (.of rows))
      ((RetrievalEvaluation.of k rows).byScorable shown) := by
  have combined := isWeightedMean_average (retrievalTypes rows)
    (fun name => totalOf read
      ((rowsOfType rows name).filter RetrievalMetric.isScorable))
    (fun name =>
      ((rowsOfType rows name).filter RetrievalMetric.isScorable).length)
    (by
      intro name _ none
      rw [List.length_eq_zero_iff.mp none]
      rfl)
  have total := sum_rowsOfType rows RetrievalMetric.isScorable fun row =>
    (read row).getD 0
  simp only [totalOf] at combined
  rw [total, length_rowsOfType rows RetrievalMetric.isScorable] at combined
  rw [same, RetrievalEvaluation.byScorable, RetrievalEvaluation.of_values,
    List.map_map]
  refine Eq.mp (congrArg _ (List.map_congr_left fun name _ => ?_)) combined
  rw [Function.comp_apply, same]
  rfl

/-- Questions without evidence add none. -/
theorem sum_evidence_scorable (rows : List RetrievalMetric) :
    ((rows.filter RetrievalMetric.isScorable).map
      RetrievalMetric.evidenceCount).sum =
      (rows.map RetrievalMetric.evidenceCount).sum := by
  induction rows with
  | nil => rfl
  | cons row rows induction =>
      by_cases scorable : row.isScorable
      · rw [List.filter_cons_of_pos scorable, List.map_cons, List.map_cons,
          List.sum_cons, List.sum_cons, induction]
      · have none : row.evidenceCount = 0 := by
          simpa [RetrievalMetric.isScorable] using scorable
        rw [List.filter_cons_of_neg scorable, List.map_cons, List.sum_cons,
          none, Nat.zero_add, induction]

theorem evidenceOf_eq (k : ℤ) (rows : List RetrievalMetric) (name : String) :
    (RetrievalEvaluation.of k rows).evidenceOf name =
      (((rowsOfType rows name).filter RetrievalMetric.isScorable).map
        RetrievalMetric.evidenceCount).sum := by
  rw [sum_evidence_scorable]
  exact (((sortBy_perm RetrievalMetric.questionId rows).filter _).map _).sum_eq

/-- The overall recall combines those of the types by their evidence. -/
theorem micro_weighted (k : ℤ) (rows : List RetrievalMetric) :
    IsWeightedMean (RetrievalAggregate.of rows).microEvidenceRecallAtK
      ((RetrievalEvaluation.of k rows).byQuestionType.entries.map fun entry =>
        ((RetrievalEvaluation.of k rows).evidenceOf entry.1,
          entry.2.microEvidenceRecallAtK)) := by
  have combined := isWeightedMean_average (retrievalTypes rows)
    (fun name => ((((rowsOfType rows name).filter
      RetrievalMetric.isScorable).map
        RetrievalMetric.retrievedEvidenceCount).sum : ℚ))
    (fun name => (((rowsOfType rows name).filter
      RetrievalMetric.isScorable).map RetrievalMetric.evidenceCount).sum)
    (by
      intro name _ none
      have empty : (rowsOfType rows name).filter
          RetrievalMetric.isScorable = [] := by
        by_contra some
        exact absurd none (evidence_sum_pos
          (fun row member => (List.mem_filter.mp member).2) some).ne'
      rw [empty]
      rfl)
  have retrieved := sum_rowsOfType rows RetrievalMetric.isScorable
    RetrievalMetric.retrievedEvidenceCount
  have evidence := sum_rowsOfType rows RetrievalMetric.isScorable
    RetrievalMetric.evidenceCount
  have cast : ((retrievalTypes rows).map fun name =>
      ((((rowsOfType rows name).filter RetrievalMetric.isScorable).map
        RetrievalMetric.retrievedEvidenceCount).sum : ℚ)).sum =
      (((rows.filter RetrievalMetric.isScorable).map
        RetrievalMetric.retrievedEvidenceCount).sum : ℚ) := by
    rw [← retrieved, ← Nat.coe_castRingHom, map_list_sum, List.map_map]
    rfl
  rw [cast, evidence] at combined
  rw [RetrievalEvaluation.of_entries, List.map_map]
  refine Eq.mp (congrArg _ (List.map_congr_left fun name _ => ?_)) combined
  rw [Function.comp_apply, evidenceOf_eq]
  rfl

theorem scorable_add_noEvidence (rows : List RetrievalMetric) :
    (RetrievalAggregate.of rows).scorableCount +
      (RetrievalAggregate.of rows).noEvidenceCount =
      (RetrievalAggregate.of rows).questionCount :=
  Nat.add_sub_of_le (List.length_filter_le _ rows)

theorem RetrievalEvaluation.of_consistent {k : ℤ} {rows : List RetrievalMetric}
    (bounded : ∀ row ∈ rows, row.Bounded) :
    (RetrievalEvaluation.of k rows).Consistent := by
  have questions : (RetrievalEvaluation.of k rows).AddsUp
      RetrievalAggregate.questionCount := by
    have all := length_rowsOfType rows fun _ => true
    simp only [List.filter_true] at all
    rw [RetrievalEvaluation.AddsUp, RetrievalEvaluation.of_values,
      List.map_map]
    exact all.symm
  have scorable : (RetrievalEvaluation.of k rows).AddsUp
      RetrievalAggregate.scorableCount := by
    rw [RetrievalEvaluation.AddsUp, RetrievalEvaluation.of_values,
      List.map_map]
    exact (length_rowsOfType rows RetrievalMetric.isScorable).symm
  constructor
  · intro row member
    exact bounded row ((sortBy_perm _ rows).mem_iff.mp member)
  · intro aggregate member
    rw [RetrievalEvaluation.of_values] at member
    rcases List.mem_cons.mp member with rfl | listed
    · exact ⟨RetrievalAggregate.of_inUnit bounded,
        scorable_add_noEvidence rows⟩
    · obtain ⟨name, -, rfl⟩ := List.mem_map.mp listed
      refine ⟨RetrievalAggregate.of_inUnit fun row part => ?_,
        scorable_add_noEvidence _⟩
      exact bounded row (List.mem_filter.mp part).1
  · exact macro_weighted k rows RetrievalMetric.hitAtK fun _ => rfl
  · exact macro_weighted k rows RetrievalMetric.evidenceRecallAtK fun _ => rfl
  · exact macro_weighted k rows RetrievalMetric.mrr fun _ => rfl
  · exact micro_weighted k rows
  · exact questions
  · exact scorable
  · rw [RetrievalEvaluation.AddsUp] at questions scorable ⊢
    have total : (RetrievalEvaluation.of k rows).byQuestionType.values.map
        RetrievalAggregate.questionCount =
        (RetrievalEvaluation.of k rows).byQuestionType.values.map
          fun aggregate =>
            aggregate.scorableCount + aggregate.noEvidenceCount := by
      rw [RetrievalEvaluation.of_values, List.map_map, List.map_map]
      exact List.map_congr_left fun name _ =>
        (scorable_add_noEvidence (rowsOfType rows name)).symm
    have whole := scorable_add_noEvidence rows
    rw [total, List.sum_map_add] at questions
    change (RetrievalAggregate.of rows).questionCount = _ at questions
    change (RetrievalAggregate.of rows).scorableCount = _ at scorable
    change (RetrievalAggregate.of rows).noEvidenceCount = _
    omega

/-! ## More hits -/

/-- The same question with rates at least as large. -/
structure RetrievalMetric.Grows (narrow wide : RetrievalMetric) : Prop where
  sameQuestion : narrow.questionId = wide.questionId
  hit : Option.Rel (· ≤ ·) narrow.hitAtK wide.hitAtK
  evidenceRecall :
    Option.Rel (· ≤ ·) narrow.evidenceRecallAtK wide.evidenceRecallAtK

/-- The same questions with rates at least as large. -/
structure RetrievalAggregate.Grows (narrow wide : RetrievalAggregate) :
    Prop where
  questions : narrow.questionCount = wide.questionCount
  scorable : narrow.scorableCount = wide.scorableCount
  macroHit : Option.Rel (· ≤ ·) narrow.macroHitAtK wide.macroHitAtK
  macroRecall : Option.Rel (· ≤ ·)
    narrow.macroEvidenceRecallAtK wide.macroEvidenceRecallAtK
  microRecall : Option.Rel (· ≤ ·)
    narrow.microEvidenceRecallAtK wide.microEvidenceRecallAtK

structure RetrievalEvaluation.Grows (narrow wide : RetrievalEvaluation) :
    Prop where
  metrics : List.Forall₂ RetrievalMetric.Grows
    narrow.questionMetrics wide.questionMetrics
  overall : narrow.overall.Grows wide.overall
  types : List.Forall₂ (fun low high => low.1 = high.1 ∧ low.2.Grows high.2)
    narrow.byQuestionType.entries wide.byQuestionType.entries

theorem totalOf_mono {k wider : ℤ} {read : RetrievalMetric → Option ℚ}
    (grows : ∀ question : RetrievalCase, Option.Rel (· ≤ ·)
      (read (question.metricAt k)) (read (question.metricAt wider)))
    (cases : List RetrievalCase) :
    totalOf read (metricsAt k cases) ≤ totalOf read (metricsAt wider cases) :=
    by
  rw [totalOf, totalOf, metricsAt, metricsAt, List.map_map, List.map_map]
  apply List.sum_le_sum
  exact fun question _ => getD_mono (grows question)

section Grows

variable {k wider : ℤ} (le : k ≤ wider)

include le

theorem RetrievalCase.metricAt_grows (question : RetrievalCase) :
    (question.metricAt k).Grows (question.metricAt wider) := by
  have more := question.retrieved_mono le
  refine ⟨rfl, average_mono ?_ _, average_mono ?_ _⟩
  · split_ifs
    · exact le_refl _
    · omega
    · exact zero_le_one
    · exact le_refl _
  · exact_mod_cast more

theorem RetrievalAggregate.of_grows (cases : List RetrievalCase) :
    (RetrievalAggregate.of (metricsAt k cases)).Grows
      (.of (metricsAt wider cases)) := by
  have scored (k : ℤ) :
      (metricsAt k cases).filter RetrievalMetric.isScorable =
        metricsAt k (cases.filter RetrievalCase.isScorable) :=
    List.filter_map
  have length (k : ℤ) (cases : List RetrievalCase) :
      (metricsAt k cases).length = cases.length :=
    List.length_map _
  have evidence (k : ℤ) : (metricsAt k
      (cases.filter RetrievalCase.isScorable)).map
        RetrievalMetric.evidenceCount =
      (cases.filter RetrievalCase.isScorable).map fun question =>
        question.evidence.card :=
    List.map_map
  have retrieved : ((metricsAt k
      (cases.filter RetrievalCase.isScorable)).map
        RetrievalMetric.retrievedEvidenceCount).sum ≤
      ((metricsAt wider (cases.filter RetrievalCase.isScorable)).map
        RetrievalMetric.retrievedEvidenceCount).sum := by
    rw [metricsAt, metricsAt, List.map_map, List.map_map]
    exact List.sum_le_sum fun question _ => question.retrieved_mono le
  simp only [RetrievalAggregate.of, scored, length, evidence]
  constructor
  · rfl
  · rfl
  · exact average_mono (totalOf_mono
      (fun question => (question.metricAt_grows le).hit) _) _
  · exact average_mono (totalOf_mono
      (fun question => (question.metricAt_grows le).evidenceRecall) _) _
  · exact average_mono (by exact_mod_cast retrieved) _

theorem RetrievalEvaluation.of_grows (cases : List RetrievalCase) :
    (RetrievalEvaluation.of k (metricsAt k cases)).Grows
      (.of wider (metricsAt wider cases)) := by
  have ordered (k : ℤ) : sortBy RetrievalMetric.questionId (metricsAt k cases) =
      metricsAt k (sortBy RetrievalCase.questionId cases) :=
    sortBy_map _ _ cases
  have part (k : ℤ) (name : String) : rowsOfType (metricsAt k cases) name =
      metricsAt k (cases.filter fun question => question.questionType = name) :=
    List.filter_map
  have types : retrievalTypes (metricsAt k cases) =
      retrievalTypes (metricsAt wider cases) := by
    apply retrievalTypes_eq
    intro name
    rw [mem_retrievalTypes, mem_retrievalTypes, metricsAt, metricsAt]
    simp [RetrievalCase.metricAt]
  constructor
  · change List.Forall₂ _ (sortBy _ _) (sortBy _ _)
    rw [ordered, ordered, metricsAt, metricsAt, List.forall₂_map_left_iff,
      List.forall₂_map_right_iff]
    exact List.forall₂_same.mpr fun question _ => question.metricAt_grows le
  · exact RetrievalAggregate.of_grows le cases
  · rw [RetrievalEvaluation.of_entries, RetrievalEvaluation.of_entries, types,
      List.forall₂_map_left_iff, List.forall₂_map_right_iff]
    refine List.forall₂_same.mpr fun name _ => ⟨rfl, ?_⟩
    rw [part, part]
    exact RetrievalAggregate.of_grows le _

end Grows

/-- Metrics are consistent across cutoffs, types and orders. -/
theorem retrieval_metrics_consistent {cases : List RetrievalCase}
    (unique : (cases.map RetrievalCase.questionId).Nodup) (k : ℤ) :
    (0 < k → ∃ evaluation, aggregateRetrieval cases k = .ok evaluation) ∧
      aggregateRetrieval cases k ≠ .error .zeroDivision ∧
      (∀ evaluation, aggregateRetrieval cases k = .ok evaluation →
        evaluation.Consistent ∧
          evaluation.overall.questionCount = cases.length) ∧
      (∀ narrow wide wider, k ≤ wider →
        aggregateRetrieval cases k = .ok narrow →
        aggregateRetrieval cases wider = .ok wide → narrow.Grows wide) ∧
      ∀ permuted : List RetrievalCase, permuted.Perm cases →
        aggregateRetrieval permuted k = aggregateRetrieval cases k := by
  have valueOf {k : ℤ} {evaluation : RetrievalEvaluation}
      (returned : aggregateRetrieval cases k = .ok evaluation) :
      evaluation = .of k (metricsAt k cases) := by
    rw [aggregateRetrieval_eq, if_neg (not_not.mpr unique)] at returned
    split_ifs at returned
    · cases returned
      rfl
  refine ⟨?_, ?_, ?_, ?_, ?_⟩
  · intro positive
    rw [aggregateRetrieval_eq, if_neg (not_not.mpr unique),
      if_pos (.inl positive)]
    exact ⟨_, rfl⟩
  · intro failed
    rw [aggregateRetrieval_eq, if_neg (not_not.mpr unique)] at failed
    split_ifs at failed
    · cases failed
  · rintro evaluation returned
    obtain rfl := valueOf returned
    refine ⟨RetrievalEvaluation.of_consistent ?_, List.length_map _⟩
    intro row member
    obtain ⟨question, -, rfl⟩ := List.mem_map.mp member
    exact question.metricAt_bounded k
  · intro narrow wide wider le first second
    rw [valueOf first, valueOf second]
    exact RetrievalEvaluation.of_grows le cases
  · intro permuted same
    have accepted : 0 < k ∨ permuted = [] ↔ 0 < k ∨ cases = [] := by
      refine or_congr_right ?_
      rw [← List.length_eq_zero_iff, ← List.length_eq_zero_iff,
        same.length_eq]
    have rows : (metricsAt k permuted).Perm (metricsAt k cases) :=
      same.map _
    have distinct : ((metricsAt k permuted).map
        RetrievalMetric.questionId).Nodup := by
      rw [metricsAt, List.map_map]
      exact (same.map _).nodup_iff.mpr unique
    rw [aggregateRetrieval_eq, aggregateRetrieval_eq,
      if_neg (not_not.mpr unique),
      if_neg (not_not.mpr ((same.map _).nodup_iff.mpr unique)),
      RetrievalEvaluation.of_perm k distinct rows]
    simp only [accepted]

/-- Three questions of two types, the last one without evidence. -/
def threeCases : List RetrievalCase :=
  [{ questionId := "q-2"
     questionType := "fact"
     rankedChunkIds := ["a", "b"]
     evidenceChunkIds := ["b", "c"]
     latencyMs := 12
     named := by decide
     latency_nonneg := by decide
     ranked_nodup := by decide
     evidence_nodup := by decide },
   { questionId := "q-1"
     questionType := "table"
     rankedChunkIds := ["d"]
     evidenceChunkIds := ["d"]
     latencyMs := 7
     named := by decide
     latency_nonneg := by decide
     ranked_nodup := by decide
     evidence_nodup := by decide },
   { questionId := "q-3"
     questionType := "table"
     rankedChunkIds := ["a"]
     evidenceChunkIds := []
     latencyMs := 0
     named := by decide
     latency_nonneg := by decide
     ranked_nodup := List.nodup_singleton "a"
     evidence_nodup := by decide }]

theorem retrieval_metrics_consistent_sample :
    ∃ narrow wide, aggregateRetrieval threeCases 1 = .ok narrow ∧
      aggregateRetrieval threeCases 2 = .ok wide ∧
      narrow.Consistent ∧ narrow.Grows wide := by
  have unique : (threeCases.map RetrievalCase.questionId).Nodup := by decide
  obtain ⟨returns, -, consistent, grows, -⟩ :=
    retrieval_metrics_consistent unique 1
  obtain ⟨wider, -⟩ := retrieval_metrics_consistent unique 2
  obtain ⟨narrow, first⟩ := returns (by decide)
  obtain ⟨wide, second⟩ := wider (by decide)
  exact ⟨narrow, wide, first, second, (consistent narrow first).1,
    grows narrow wide 2 (by decide) first second⟩

end RagBench
