import RagBench.Evaluation.Bootstrap
import RagBench.WeightedMean

/-!
# Retrieval metrics

Every ranking is scored against the evidence of its question.  Questions
without evidence are counted and left out of the means, both overall and in
each question type.  The numbers are exact.
-/

namespace RagBench

/-- A question with its ranking, as `__post_init__` accepts it. -/
structure RetrievalCase where
  questionId : String
  questionType : String
  rankedChunkIds : List String
  evidenceChunkIds : List String
  latencyMs : ℚ
  named : strip questionId ≠ "" ∧ strip questionType ≠ ""
  latency_nonneg : 0 ≤ latencyMs
  ranked_nodup : rankedChunkIds.Nodup
  evidence_nodup : evidenceChunkIds.Nodup

/-- `__post_init__`. -/
def RetrievalCase.create (questionId questionType : String)
    (rankedChunkIds evidenceChunkIds : List String) (latencyMs : PyFloat) :
    Except PyException RetrievalCase :=
  if named : strip questionId = "" ∨ strip questionType = "" then
    .error (.valueError "retrieval case identity cannot be blank")
  else match latencyMs with
    | .finite latency =>
        if negative : latency < 0 then
          .error (.valueError "retrieval latency cannot be negative")
        else if ranked : ¬ rankedChunkIds.Nodup then
          .error (.valueError "ranked chunk IDs must be unique")
        else if evidence : ¬ evidenceChunkIds.Nodup then
          .error (.valueError "evidence chunk IDs must be unique")
        else .ok
          { questionId, questionType, rankedChunkIds, evidenceChunkIds
            latencyMs := latency
            named := not_or.mp named
            latency_nonneg := not_lt.mp negative
            ranked_nodup := not_not.mp ranked
            evidence_nodup := not_not.mp evidence }
    | _ => .error (.valueError "retrieval latency must be finite")

structure RetrievalMetric where
  questionId : String
  questionType : String
  k : ℤ
  evidenceCount : ℕ
  retrievedEvidenceCount : ℕ
  hitAtK : Option ℚ
  evidenceRecallAtK : Option ℚ
  mrr : Option ℚ
  latencyMs : ℚ

def RetrievalMetric.isScorable (row : RetrievalMetric) : Bool :=
  0 < row.evidenceCount

structure BootstrapInput where
  questionId : String
  questionType : String
  hitAtK : ℚ
  evidenceRecallAtK : ℚ
  mrr : ℚ

structure RetrievalAggregate where
  questionCount : ℕ
  scorableCount : ℕ
  noEvidenceCount : ℕ
  macroHitAtK : Option ℚ
  macroEvidenceRecallAtK : Option ℚ
  microEvidenceRecallAtK : Option ℚ
  macroMrr : Option ℚ
  meanLatencyMs : Option ℚ

structure RetrievalEvaluation where
  k : ℤ
  overall : RetrievalAggregate
  byQuestionType : Dict String RetrievalAggregate
  questionMetrics : List RetrievalMetric
  bootstrapInputs : List BootstrapInput

/-- The reciprocal of the rank of the first piece of evidence. -/
def reciprocalRank (evidence : Finset String) :
    List String → ℕ → Except PyException ℚ
  | [], _ => .ok 0
  | chunkId :: rest, rank =>
      if chunkId ∈ evidence then divide 1 rank
      else reciprocalRank evidence rest (rank + 1)

def evaluateRetrieval (k : ℤ) (question : RetrievalCase) :
    Except PyException RetrievalMetric := do
  raiseIf (k ≤ 0) (.valueError "k must be a positive integer")
  let evidence := question.evidenceChunkIds.toFinset
  if evidence = ∅ then
    return {
      questionId := question.questionId
      questionType := question.questionType
      k := k
      evidenceCount := 0
      retrievedEvidenceCount := 0
      hitAtK := none
      evidenceRecallAtK := none
      mrr := none
      latencyMs := question.latencyMs }
  else
    let top := question.rankedChunkIds.take k.toNat
    let retrievedCount := top.countP (· ∈ evidence)
    let reciprocal ← reciprocalRank evidence question.rankedChunkIds 1
    let share ← divide retrievedCount evidence.card
    return {
      questionId := question.questionId
      questionType := question.questionType
      k := k
      evidenceCount := evidence.card
      retrievedEvidenceCount := retrievedCount
      hitAtK := some (if 0 < retrievedCount then 1 else 0)
      evidenceRecallAtK := some share
      mrr := some reciprocal
      latencyMs := question.latencyMs }

/-- `sum(read(row) or 0.0 for row in rows)`. -/
def totalOf (read : RetrievalMetric → Option ℚ) (rows : List RetrievalMetric) :
    ℚ :=
  (rows.map fun row => (read row).getD 0).sum

/-- `sum(row.latency_ms for row in rows) / len(rows) if rows else None`. -/
def meanLatency (rows : List RetrievalMetric) :
    Except PyException (Option ℚ) :=
  if rows = [] then .ok none
  else some <$> divide (rows.map RetrievalMetric.latencyMs).sum rows.length

/-- `_aggregate`. -/
def aggregateRows (rows : List RetrievalMetric) :
    Except PyException RetrievalAggregate := do
  let scored := rows.filter RetrievalMetric.isScorable
  let latency ← meanLatency rows
  if scored = [] then
    return {
      questionCount := rows.length
      scorableCount := 0
      noEvidenceCount := rows.length
      macroHitAtK := none
      macroEvidenceRecallAtK := none
      microEvidenceRecallAtK := none
      macroMrr := none
      meanLatencyMs := latency }
  else
    let hit ← divide (totalOf RetrievalMetric.hitAtK scored) scored.length
    let macroRecall ←
      divide (totalOf RetrievalMetric.evidenceRecallAtK scored) scored.length
    let totalEvidence := (scored.map RetrievalMetric.evidenceCount).sum
    let microRecall ← divide
      (scored.map RetrievalMetric.retrievedEvidenceCount).sum totalEvidence
    let mrr ← divide (totalOf RetrievalMetric.mrr scored) scored.length
    return {
      questionCount := rows.length
      scorableCount := scored.length
      noEvidenceCount := rows.length - scored.length
      macroHitAtK := some hit
      macroEvidenceRecallAtK := some macroRecall
      microEvidenceRecallAtK := some microRecall
      macroMrr := some mrr
      meanLatencyMs := latency }

/-- The observation of a scorable row. -/
def RetrievalMetric.bootstrapInput (row : RetrievalMetric) : BootstrapInput :=
  { questionId := row.questionId
    questionType := row.questionType
    hitAtK := row.hitAtK.getD 0
    evidenceRecallAtK := row.evidenceRecallAtK.getD 0
    mrr := row.mrr.getD 0 }

def aggregateType (grouped : Dict String (List RetrievalMetric))
    (name : String) : Except PyException (String × RetrievalAggregate) := do
  let aggregate ← aggregateRows (grouped.getD name [])
  return (name, aggregate)

def aggregateRetrieval (cases : List RetrievalCase) (k : ℤ) :
    Except PyException RetrievalEvaluation := do
  raiseIf (¬ (cases.map RetrievalCase.questionId).Nodup)
    (.valueError "retrieval case question IDs must be unique")
  let rows ← cases.mapM (evaluateRetrieval k)
  let grouped := groupInto RetrievalMetric.questionType .empty rows
  let ordered := sortBy RetrievalMetric.questionId rows
  let bootstrap := (ordered.filter RetrievalMetric.isScorable).map
    RetrievalMetric.bootstrapInput
  let overall ← aggregateRows rows
  let byQuestionType ← (sortBy id grouped.keys).mapM (aggregateType grouped)
  return {
    k := k
    overall := overall
    byQuestionType := .ofList byQuestionType
    questionMetrics := ordered
    bootstrapInputs := bootstrap }

end RagBench
