import RagBench.Grouping
import RagBench.Sorting
import RagBench.Benchmark.Splits
import RagBench.Providers.Messages
import RagBench.PyText
import Mathlib.Data.Prod.Lex
import Mathlib.Data.Finset.Card

/-!
# Cost tables

The usages of a bundle are grouped by experiment, operation, model, question
type and cache status.  The rows of generate calls carry a share of what the
experiment paid for parsing.
-/

namespace RagBench

/-! ## Bundles -/

/-- The identities of an experiment. -/
structure AnalysisConfig where
  experimentId : String
  configHash : String
  hashed : isHexDigest configHash
  /-- The identity is bound to the hash. -/
  bound : (configHash ++ "-").toList <+: experimentId.toList
  deriving DecidableEq

structure AnalysisResult where
  experimentId : String
  questionId : String
  questionType : String
  correctness : ℚ
  named : questionId ≠ ""
  correctness_unit : 0 ≤ correctness ∧ correctness ≤ 1
  deriving DecidableEq

structure AnalysisUsage where
  experimentId : String
  questionId : Option String
  questionType : String
  operation : String
  modelId : String
  estimatedCostUsd : ℚ
  cached : Bool
  cost_nonneg : 0 ≤ estimatedCostUsd
  deriving DecidableEq

inductive FailureCategory where
  | parserError
  | retrievalMiss
  | chunkBoundary
  | tableError
  | retrievalNoise
  | generationError
  | hallucination
  | badCitation
  | falseAbstention
  | benchmarkDefect
  deriving DecidableEq

structure AnalysisFailure where
  experimentId : String
  questionId : String
  questionType : String
  primary : FailureCategory
  secondary : Option FailureCategory
  /-- `FailureLabels`. -/
  labels_distinct : secondary ≠ some primary
  deriving DecidableEq

/-- A bundle that `_validate_relations` accepts. -/
structure AnalysisBundle where
  configs : List AnalysisConfig
  results : List AnalysisResult
  usage : List AnalysisUsage
  failures : List AnalysisFailure
  experiments_nonempty : configs ≠ []
  experiments_unique : (configs.map AnalysisConfig.experimentId).Nodup
  results_known : ∀ result ∈ results,
    result.experimentId ∈ configs.map AnalysisConfig.experimentId
  usage_known : ∀ row ∈ usage,
    row.experimentId ∈ configs.map AnalysisConfig.experimentId
  results_unique : (results.map fun result =>
    (result.experimentId, result.questionId)).Nodup
  /-- All experiments share one question cohort. -/
  cohort_shared : ∀ first ∈ configs, ∀ second ∈ configs, ∀ result ∈ results,
    result.experimentId = first.experimentId → ∃ other ∈ results,
      other.experimentId = second.experimentId ∧
        other.questionId = result.questionId
  types_fixed : ∀ first ∈ results, ∀ second ∈ results,
    first.questionId = second.questionId →
      first.questionType = second.questionType
  usage_bound : ∀ row ∈ usage, ∀ questionId, row.questionId = some questionId →
    ∃ result ∈ results, result.experimentId = row.experimentId ∧
      result.questionId = questionId ∧
      result.questionType = row.questionType
  failures_bound : ∀ failure ∈ failures,
    ∃ result ∈ results, result.experimentId = failure.experimentId ∧
      result.questionId = failure.questionId ∧
      result.questionType = failure.questionType

/-! ## Groups -/

/-- The key of `grouped`. -/
structure CostGroup where
  experimentId : String
  operation : String
  modelId : String
  questionType : String
  cached : Bool
  deriving DecidableEq

/-- Keys are compared as tuples. -/
def CostGroup.order (group : CostGroup) :
    String ×ₗ String ×ₗ String ×ₗ String ×ₗ Bool :=
  toLex (group.experimentId, toLex (group.operation, toLex (group.modelId,
    toLex (group.questionType, group.cached))))

def AnalysisUsage.group (row : AnalysisUsage) : CostGroup :=
  { experimentId := row.experimentId
    operation := row.operation
    modelId := row.modelId
    questionType := row.questionType
    cached := row.cached }

namespace AnalysisBundle

/-- `grouped`. -/
def grouped (bundle : AnalysisBundle) : Dict CostGroup (List AnalysisUsage) :=
  groupInto AnalysisUsage.group .empty bundle.usage

/-- `parse_totals`. -/
def parseTotals (context : Decimal.Context) (bundle : AnalysisBundle) :
    Dict String ℚ :=
  bundle.usage.foldl (fun totals row =>
    if row.operation = "parse" ∧ ¬ row.cached then
      totals.set row.experimentId
        (context.fix (totals.getD row.experimentId 0 + row.estimatedCostUsd))
    else totals) .empty

/-- `question_counts`. -/
def questionCounts (bundle : AnalysisBundle) : Dict String ℕ :=
  bundle.results.foldl (fun counts result =>
    counts.set result.experimentId
      (counts.getD result.experimentId 0 + 1)) .empty

end AnalysisBundle

/-! ## Rows -/

/-- Round to the nearest integer, ties away from zero. -/
def halfUp (value : ℚ) : ℤ :=
  if 0 ≤ value then ⌊value + 1 / 2⌋ else -⌊-value + 1 / 2⌋

/-- `value.quantize(MONEY_QUANTUM, rounding=ROUND_HALF_UP)`. -/
def quantizeHalfUp (context : Decimal.Context) (value : ℚ) :
    Except PyException ℚ :=
  let coefficient := halfUp (value * 10 ^ 6)
  if coefficient.natAbs < context.coefficientLimit then
    .ok (coefficient / 10 ^ 6)
  else .error .invalidOperation

/-- `sum(values, Decimal())`. -/
def decimalSum (context : Decimal.Context) (values : List ℚ) : ℚ :=
  values.foldl (fun total value => context.fix (total + value)) 0

/-- The questions of the usages, counted once each. -/
def coveredQuestions (rows : List AnalysisUsage) : Finset String :=
  (rows.filterMap fun row => row.questionId.filter (· ≠ "")).toFinset

structure CostRow where
  publicConfigId : String
  operation : String
  modelId : String
  questionType : String
  cacheStatus : String
  callCount : ℕ
  netCostUsd : ℚ
  grossCostUsd : ℚ
  parseAmortizedCostUsd : ℚ

/-- The field constraints of `CostRow`. -/
def CostRow.validate (row : CostRow) : Except PyException CostRow :=
  if isHexDigest row.publicConfigId ∧ 0 ≤ row.netCostUsd ∧
      0 ≤ row.grossCostUsd ∧ 0 ≤ row.parseAmortizedCostUsd then .ok row
  else .error (validationError "CostRow")

structure ReconciliationRow where
  status : String
  localGrossUsd : ℚ
  consoleGrossUsd : Option ℚ
  deltaUsd : Option ℚ

section Build

variable (platform : Platform) (bundle : AnalysisBundle)

/-- `_public_config_id`. -/
def publicConfigId (salt configHash : String) : Except PyException String :=
  platform.canonicalJsonHash
    (.object [("public_salt", .str salt), ("config_hash", .str configHash)])

/-- The share of the parse total that the questions of a row stand for. -/
def amortizedCost (group : CostGroup) (usageRows : List AnalysisUsage) :
    Except PyException ℚ :=
  let context := platform.context
  let denominator := bundle.questionCounts.getD group.experimentId 0
  if group.operation = "generate" ∧ denominator ≠ 0 then
    quantizeHalfUp context (context.fix (context.fix
      ((bundle.parseTotals context).getD group.experimentId 0 *
        (coveredQuestions usageRows).card) / denominator))
  else .ok 0

/-- `{config.experiment_id: config for config in bundle.configs}`. -/
def configsByExperiment : Dict String AnalysisConfig :=
  Dict.ofList (bundle.configs.map fun config => (config.experimentId, config))

/-- `configs[experiment_id].config_hash`. -/
def configHashOf (experimentId : String) : Except PyException String :=
  match (configsByExperiment bundle).get? experimentId with
  | some config => .ok config.configHash
  | none => .error (.keyError experimentId)

/-- The row of a group. -/
def costRow (vatMultiplier : ℚ) (publicSalt : String)
    (entry : CostGroup × List AnalysisUsage) : Except PyException CostRow := do
  let context := platform.context
  let group := entry.1
  let net ← quantizeHalfUp context (decimalSum context
    (entry.2.map AnalysisUsage.estimatedCostUsd))
  let amortized ← amortizedCost platform bundle group entry.2
  let configHash ← configHashOf bundle group.experimentId
  let publicId ← publicConfigId platform publicSalt configHash
  let gross ← quantizeHalfUp context (context.fix (net * vatMultiplier))
  CostRow.validate
    { publicConfigId := publicId
      operation := group.operation
      modelId := group.modelId
      questionType := group.questionType
      cacheStatus := if group.cached then "cached" else "new"
      callCount := entry.2.length
      netCostUsd := net
      grossCostUsd := gross
      parseAmortizedCostUsd := amortized }

/-- `sorted(grouped.items())`; the keys are distinct. -/
def costGroups : List (CostGroup × List AnalysisUsage) :=
  sortBy (fun entry => entry.1.order) bundle.grouped.entries

/-- The comparison with the console. -/
def reconciliationOf (rows : List CostRow) (consoleGrossUsd : Option ℚ) :
    Except PyException ReconciliationRow := do
  let context := platform.context
  let localGross ← quantizeHalfUp context
    (decimalSum context (rows.map CostRow.grossCostUsd))
  match consoleGrossUsd with
  | none => return {
      status := "not_reconciled"
      localGrossUsd := localGross
      consoleGrossUsd := none
      deltaUsd := none }
  | some console => do
      let delta ← quantizeHalfUp context (context.fix (console - localGross))
      return {
        status := "reconciled"
        localGrossUsd := localGross
        consoleGrossUsd := some console
        deltaUsd := some delta }

/-- `build_cost_rows`. -/
def buildCostRows (vatMultiplier : ℚ) (consoleGrossUsd : Option ℚ)
    (publicSalt : String) :
    Except PyException (List CostRow × ReconciliationRow) := do
  raiseIf (vatMultiplier < 1)
    (.valueError "VAT multiplier must be at least one")
  let rows ← (costGroups bundle).mapM
    (costRow platform bundle vatMultiplier publicSalt)
  let reconciliation ← reconciliationOf platform rows consoleGrossUsd
  return (rows, reconciliation)

end Build

end RagBench
