import RagBench.Evaluation.Bootstrap
import RagBench.Evaluation.GoldStore

/-!
# The public gold report

The results of a complete run are averaged for each configuration, metric and
question type, and the configurations of the primary comparison are compared on
the whole cohort and on each question type.
-/

namespace RagBench

/-- `_metric_value`. -/
def GoldEvaluationResult.metricValue (result : GoldEvaluationResult) :
    GoldMetric → PyFloat
  | .correctness => result.correctness
  | .faithfulness => result.faithfulness
  | .citation => result.citation
  | .abstention => result.abstention
  | .latency => result.latency
  | .cost => result.cost
  | .hit => result.hit
  | .«recall» => result.«recall»
  | .mrr => result.mrr

structure GoldAggregate where
  publicConfigId : String
  metric : GoldMetric
  mean : PyFloat
  sampleCount : ℕ

def GoldAggregate.validate (row : GoldAggregate) :
    Except PyException GoldAggregate :=
  if isHexDigest row.publicConfigId ∧ 0 < row.sampleCount then .ok row
  else .error (validationError "GoldAggregate")

structure GoldTypeAggregate extends GoldAggregate where
  questionType : String

structure GoldPairedComparison where
  leftPublicConfigId : String
  rightPublicConfigId : String
  metric : GoldMetric
  questionType : Option String
  effect : PyFloat
  ciLow : PyFloat
  ciHigh : PyFloat
  resamples : ℕ
  sampleCount : ℕ
  clusterCount : ℕ

def GoldPairedComparison.validate (row : GoldPairedComparison) :
    Except PyException GoldPairedComparison :=
  if isHexDigest row.leftPublicConfigId ∧ isHexDigest row.rightPublicConfigId ∧
      10000 ≤ row.resamples ∧ 0 < row.sampleCount ∧ 1 < row.clusterCount then
    .ok row
  else .error (validationError "GoldPairedComparison")

structure PublicGoldReport where
  preregistrationPublicId : String
  cohortPublicId : String
  overall : List GoldAggregate
  byType : List GoldTypeAggregate
  comparisons : List GoldPairedComparison

def PublicGoldReport.validate (report : PublicGoldReport) :
    Except PyException PublicGoldReport :=
  if isHexDigest report.preregistrationPublicId ∧
      isHexDigest report.cohortPublicId then .ok report
  else .error (validationError "PublicGoldReport")

namespace GoldReport

/-- `rows[key]`. -/
def entryAt {ν : Type} (rows : Dict String ν) (key : String) :
    Except PyException ν :=
  match rows.get? key with
  | some value => .ok value
  | none => .error (.keyError key)

section Statistics

variable (arithmetic : FloatArithmetic) (random : Random)

/-- The mean of a metric over some results. -/
def aggregateOf (publicConfigId : String) (metric : GoldMetric)
    (rows : List GoldEvaluationResult) : Except PyException GoldAggregate := do
  let average ← mean arithmetic (rows.map fun row => row.metricValue metric)
  GoldAggregate.validate
    { publicConfigId, metric, mean := average, sampleCount := rows.length }

def typeAggregateOf (publicConfigId : String) (metric : GoldMetric)
    (rows : List GoldEvaluationResult) (questionType : String) :
    Except PyException GoldTypeAggregate := do
  let aggregate ← aggregateOf arithmetic publicConfigId metric
    (rows.filter fun row => row.questionType = questionType)
  return { aggregate with questionType := questionType }

/-- The aggregates of one configuration and one metric. -/
def metricAggregates (publicConfigId : String)
    (rows : List GoldEvaluationResult) (types : List String)
    (metric : GoldMetric) :
    Except PyException (GoldAggregate × List GoldTypeAggregate) := do
  let overall ← aggregateOf arithmetic publicConfigId metric rows
  let byType ← types.mapM
    (typeAggregateOf arithmetic publicConfigId metric rows)
  return (overall, byType)

def configAggregates (publicIds : Dict String String)
    (byConfig : Dict String (List GoldEvaluationResult))
    (types : List String) (configHash : String) :
    Except PyException (List (GoldAggregate × List GoldTypeAggregate)) := do
  let rows ← entryAt byConfig configHash
  let publicId ← entryAt publicIds configHash
  GoldMetric.all.mapM (metricAggregates arithmetic publicId rows types)

/-! ## Comparisons -/

/-- The results of a question type, or of all types, by item. -/
def rowsById (rows : List GoldEvaluationResult)
    (questionType : Option String) : Dict String GoldEvaluationResult :=
  .ofList ((rows.filter fun row =>
    questionType = none ∨ some row.questionType = questionType).map fun row =>
      (row.itemId, row))

def observationOf (left right : Dict String GoldEvaluationResult)
    (metric : GoldMetric) (itemId : String) :
    Except PyException PairedObservation := do
  let first ← entryAt left itemId
  let second ← entryAt right itemId
  PairedObservation.validate
    { observationId := itemId
      left := first.metricValue metric
      right := second.metricValue metric
      documentClusterId := some first.documentClusterId }

def clusterAt (rows : Dict String GoldEvaluationResult) (itemId : String) :
    Option String :=
  (rows.get? itemId).map fun row => row.documentClusterId

/-- A final interval counts its clusters. -/
def requireClusterCount : Option ℕ → Except PyException ℕ
  | some count => .ok count
  | none => .error ⟨.derived "AssertionError" .exception,
      "final paired bootstrap must report cluster count"⟩

/-- `_compare`. -/
def compare (left right : List GoldEvaluationResult) (metric : GoldMetric)
    (questionType : Option String) (prereg : GoldPreregistration)
    (leftPublicId rightPublicId : String) :
    Except PyException GoldPairedComparison := do
  let leftRows := rowsById left questionType
  let rightRows := rowsById right questionType
  raiseIf (leftRows.keys.toFinset ≠ rightRows.keys.toFinset)
    (.valueError "paired gold comparison cohorts differ")
  let observations ← (sortBy id leftRows.keys).mapM
    (observationOf leftRows rightRows metric)
  raiseIf (leftRows.keys.any fun itemId =>
      clusterAt leftRows itemId ≠ clusterAt rightRows itemId)
    (.valueError "paired gold document clusters differ")
  let interval ← pairedBootstrap arithmetic random observations
    (some prereg.bootstrap.seed) prereg.bootstrap.resamples true true
    confidenceLevel
  let clusterCount ← requireClusterCount interval.clusterCount
  GoldPairedComparison.validate
    { leftPublicConfigId := leftPublicId
      rightPublicConfigId := rightPublicId
      metric := metric
      questionType := questionType
      effect := interval.effect
      ciLow := interval.ciLow
      ciHigh := interval.ciHigh
      resamples := interval.resamples
      sampleCount := interval.sampleCount
      clusterCount := clusterCount }

/-- `for metric in metrics for question_type in (None, *types)`. -/
def comparisonKeys (types : List String) :
    List (GoldMetric × Option String) :=
  GoldMetric.all.flatMap fun metric =>
    (none :: types.map some).map fun questionType => (metric, questionType)

def comparePrimary (publicIds : Dict String String)
    (byConfig : Dict String (List GoldEvaluationResult))
    (prereg : GoldPreregistration) (key : GoldMetric × Option String) :
    Except PyException GoldPairedComparison := do
  let comparison := prereg.primaryComparison
  let left ← entryAt byConfig comparison.leftConfigHash
  let right ← entryAt byConfig comparison.rightConfigHash
  let leftPublicId ← entryAt publicIds comparison.leftConfigHash
  let rightPublicId ← entryAt publicIds comparison.rightConfigHash
  compare arithmetic random left right key.1 key.2 prereg leftPublicId
    rightPublicId

end Statistics

/-! ## The report -/

section Report

variable (arithmetic : FloatArithmetic) (random : Random)
  (platform : Platform)

def publicIdOf (salt configHash : String) : Except PyException String :=
  platform.canonicalJsonHash
    (.object [("salt", .str salt), ("config", .str configHash)])

/-- `public_ids`. -/
def publicIdsOf (salt : String) (configHashes : List String) :
    Except PyException (Dict String String) := do
  let ids ← configHashes.mapM (publicIdOf platform salt)
  return .ofList (configHashes.zip ids)

def byConfigOf (configHashes : List String)
    (rows : List GoldEvaluationResult) :
    Dict String (List GoldEvaluationResult) :=
  .ofList (configHashes.map fun configHash =>
    (configHash, rows.filter fun row => row.configHash = configHash))

def itemSet (rows : List GoldEvaluationResult) : Finset String :=
  (rows.map fun row => row.itemId).toFinset

/-- `sorted({row.question_type for row in rows})`. -/
def typesOf (rows : List GoldEvaluationResult) : List String :=
  sortBy id (rows.map fun row => row.questionType).dedup

/-- Whether some configuration has too many or too few results, or results for
other items than the first one. -/
def cohortsDiffer (itemCount : ℕ)
    (byConfig : Dict String (List GoldEvaluationResult)) : Bool :=
  let itemSets := byConfig.values.map itemSet
  (byConfig.values.any fun rows => rows.length ≠ itemCount) ∨
    itemSets.tail.any fun items => items ≠ itemSets.headD ∅

/-- The report over the results of all configurations. -/
def reportOf (envelope : PreregistrationEnvelope) (salt : String)
    (rows : List GoldEvaluationResult) :
    Except PyException PublicGoldReport := do
  let prereg := envelope.preregistration
  raiseIf (rows.length ≠ prereg.cohort.itemCount * 3)
    (.valueError "gold run is incomplete")
  let byConfig := byConfigOf prereg.configHashes rows
  raiseIf (cohortsDiffer prereg.cohort.itemCount byConfig)
    (.valueError "gold configurations do not share the exact cohort")
  let publicIds ← publicIdsOf platform salt prereg.configHashes
  let types := typesOf rows
  let aggregates ← prereg.configHashes.mapM
    (configAggregates arithmetic publicIds byConfig types)
  let comparisons ← (comparisonKeys types).mapM
    (comparePrimary arithmetic random publicIds byConfig prereg)
  let preregistrationPublicId ← platform.canonicalJsonHash
    (.object [("salt", .str salt),
      ("preregistration", .str envelope.artifactSha256)])
  let cohortPublicId ← platform.canonicalJsonHash
    (.object [("salt", .str salt),
      ("cohort", .str prereg.cohort.snapshotId),
      ("content", .str prereg.cohort.contentSha256)])
  PublicGoldReport.validate
    { preregistrationPublicId := preregistrationPublicId
      cohortPublicId := cohortPublicId
      overall := aggregates.flatten.map Prod.fst
      byType := aggregates.flatten.flatMap Prod.snd
      comparisons := comparisons }

/-- `aggregate_gold_results`. -/
def aggregateGoldResults (repository : GoldResultRepository)
    (envelope : PreregistrationEnvelope) (publicExportSalt : String) :
    Except PyException PublicGoldReport := do
  raiseIf (strip publicExportSalt = "")
    (.valueError "public export salt cannot be blank")
  repository.assertBound platform envelope
  let invalidations ← repository.invalidations
  raiseIf (invalidations ≠ [])
    (.valueError "gold run was invalidated and cannot be aggregated")
  let rows ← repository.allResults platform
  reportOf arithmetic random platform envelope publicExportSalt rows

end Report

end GoldReport

end RagBench
