import RagBench.Evaluation.RetrievalConsistency

/-!
# Retrieval metrics without their latencies

Two evaluations of the same rankings agree but for the latencies, however long
the searches took.
-/

namespace RagBench

def RetrievalMetric.unmeasured (row : RetrievalMetric) : RetrievalMetric :=
  { row with latencyMs := 0 }

def RetrievalAggregate.unmeasured (aggregate : RetrievalAggregate) :
    RetrievalAggregate :=
  { aggregate with meanLatencyMs := none }

/-- The same evaluation, but for the latencies. -/
structure RetrievalEvaluation.SameButLatency
    (first second : RetrievalEvaluation) : Prop where
  k : first.k = second.k
  overall : first.overall.unmeasured = second.overall.unmeasured
  byQuestionType :
    (first.byQuestionType.entries.map fun entry =>
      (entry.1, entry.2.unmeasured)) =
      second.byQuestionType.entries.map fun entry =>
        (entry.1, entry.2.unmeasured)
  questionMetrics : first.questionMetrics.map RetrievalMetric.unmeasured =
    second.questionMetrics.map RetrievalMetric.unmeasured
  bootstrapInputs : first.bootstrapInputs = second.bootstrapInputs

theorem RetrievalAggregate.of_unmeasured (rows : List RetrievalMetric) :
    (RetrievalAggregate.of
        (rows.map RetrievalMetric.unmeasured)).unmeasured =
      (RetrievalAggregate.of rows).unmeasured := by
  have scored : (rows.map RetrievalMetric.unmeasured).filter
      RetrievalMetric.isScorable =
      (rows.filter RetrievalMetric.isScorable).map
        RetrievalMetric.unmeasured := by
    rw [List.filter_map]
    rfl
  simp only [RetrievalAggregate.of, RetrievalAggregate.unmeasured, scored,
    totalOf, List.map_map, List.length_map]
  rfl

theorem retrievalTypes_unmeasured (rows : List RetrievalMetric) :
    retrievalTypes (rows.map RetrievalMetric.unmeasured) =
      retrievalTypes rows := by
  rw [retrievalTypes, retrievalTypes, keys_groupInto, keys_groupInto,
    List.map_map]
  rfl

theorem rowsOfType_unmeasured (rows : List RetrievalMetric) (name : String) :
    rowsOfType (rows.map RetrievalMetric.unmeasured) name =
      (rowsOfType rows name).map RetrievalMetric.unmeasured := by
  rw [rowsOfType, List.filter_map]
  rfl

/-- Taking the latencies out changes nothing else. -/
theorem RetrievalEvaluation.of_unmeasured (k : ℤ)
    (rows : List RetrievalMetric) :
    (RetrievalEvaluation.of k rows).SameButLatency
      (.of k (rows.map RetrievalMetric.unmeasured)) := by
  have ordered : sortBy RetrievalMetric.questionId
      (rows.map RetrievalMetric.unmeasured) =
      (sortBy RetrievalMetric.questionId rows).map
        RetrievalMetric.unmeasured :=
    sortBy_map RetrievalMetric.questionId RetrievalMetric.unmeasured rows
  constructor
  case k => rfl
  case overall => exact (RetrievalAggregate.of_unmeasured rows).symm
  case byQuestionType =>
    rw [RetrievalEvaluation.of_entries, RetrievalEvaluation.of_entries,
      retrievalTypes_unmeasured, List.map_map, List.map_map]
    refine List.map_congr_left fun name _ => ?_
    simp only [Function.comp_apply, rowsOfType_unmeasured,
      RetrievalAggregate.of_unmeasured]
  case questionMetrics =>
    simp only [RetrievalEvaluation.of, ordered, List.map_map]
    rfl
  case bootstrapInputs =>
    simp only [RetrievalEvaluation.of, ordered, List.filter_map,
      List.map_map]
    rfl

theorem RetrievalEvaluation.SameButLatency.symm
    {first second : RetrievalEvaluation}
    (same : first.SameButLatency second) : second.SameButLatency first :=
  ⟨same.k.symm, same.overall.symm, same.byQuestionType.symm,
    same.questionMetrics.symm, same.bootstrapInputs.symm⟩

theorem RetrievalEvaluation.SameButLatency.trans
    {first second third : RetrievalEvaluation}
    (early : first.SameButLatency second)
    (late : second.SameButLatency third) : first.SameButLatency third :=
  ⟨early.k.trans late.k, early.overall.trans late.overall,
    early.byQuestionType.trans late.byQuestionType,
    early.questionMetrics.trans late.questionMetrics,
    early.bootstrapInputs.trans late.bootstrapInputs⟩

/-- Cases that differ in their latencies at most. -/
structure RetrievalCase.SameRanking (first second : RetrievalCase) : Prop where
  questionId : first.questionId = second.questionId
  questionType : first.questionType = second.questionType
  ranked : first.rankedChunkIds = second.rankedChunkIds
  evidence : first.evidenceChunkIds = second.evidenceChunkIds

theorem RetrievalCase.SameRanking.metricAt {first second : RetrievalCase}
    (same : first.SameRanking second) (k : ℤ) :
    (first.metricAt k).unmeasured = (second.metricAt k).unmeasured := by
  obtain ⟨questionId, questionType, ranked, evidence⟩ := same
  cases first
  cases second
  dsimp only at questionId questionType ranked evidence
  subst questionId questionType ranked evidence
  rfl

/-- The same rankings have the same evaluation, but for the latencies. -/
theorem aggregateRetrieval_sameRanking {cases others : List RetrievalCase}
    {k : ℤ} {first second : RetrievalEvaluation}
    (same : List.Forall₂ RetrievalCase.SameRanking cases others)
    (evaluated : aggregateRetrieval cases k = .ok first)
    (evaluated' : aggregateRetrieval others k = .ok second) :
    first.SameButLatency second := by
  have metrics : (metricsAt k cases).map RetrievalMetric.unmeasured =
      (metricsAt k others).map RetrievalMetric.unmeasured := by
    rw [metricsAt, metricsAt, List.map_map, List.map_map]
    clear evaluated evaluated'
    induction same with
    | nil => rfl
    | cons here _ induction =>
        rw [List.map_cons, List.map_cons, induction]
        exact congrArg (· :: _) (here.metricAt k)
  have value {cases : List RetrievalCase} {evaluation : RetrievalEvaluation}
      (evaluated : aggregateRetrieval cases k = .ok evaluation) :
      evaluation = .of k (metricsAt k cases) := by
    rw [aggregateRetrieval_eq] at evaluated
    split_ifs at evaluated
    exact (Except.ok.inj evaluated).symm
  rw [value evaluated, value evaluated']
  have early := RetrievalEvaluation.of_unmeasured k (metricsAt k cases)
  rw [metrics] at early
  exact early.trans (RetrievalEvaluation.of_unmeasured k _).symm

end RagBench
