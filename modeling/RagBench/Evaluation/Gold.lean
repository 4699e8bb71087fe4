import RagBench.Benchmark.SealedGold
import RagBench.Experiments.Planning

/-!
# Preregistration and results of the gold evaluation

Three preregistered configurations answer every item of a sealed cohort.  The
envelope of a preregistration holds its hash, and a result of the evaluation
its identity and nine metrics.
-/

namespace RagBench

/-! ## Preregistration -/

inductive GoldMetric where
  | correctness
  | faithfulness
  | citation
  | abstention
  | latency
  | cost
  | hit
  | «recall»
  | mrr
  deriving DecidableEq, Repr

def GoldMetric.value : GoldMetric → String
  | .correctness => "correctness"
  | .faithfulness => "faithfulness"
  | .citation => "citation"
  | .abstention => "abstention"
  | .latency => "latency"
  | .cost => "cost"
  | .hit => "hit"
  | .«recall» => "recall"
  | .mrr => "mrr"

/-- `tuple(GoldMetric)`. -/
def GoldMetric.all : List GoldMetric :=
  [.correctness, .faithfulness, .citation, .abstention, .latency, .cost,
    .hit, .«recall», .mrr]

structure PrimaryComparison where
  leftConfigHash : String
  rightConfigHash : String
  metric : GoldMetric
  different : leftConfigHash ≠ rightConfigHash

structure BootstrapSpec where
  resamples : ℕ
  seed : ℕ
  enough : 10000 ≤ resamples

structure GoldCohort where
  snapshotId : String
  contentSha256 : String
  itemCount : ℕ
  orderedMembershipHash : String
  itemCount_literal : itemCount = 150 ∨ itemCount = 300

structure ExecutorSpec where
  entrypoint : String
  sourceSha256 : String

structure SolarExploratorySpec where
  modelIds : String × String
  subsetMembershipHash : String
  subsetSize : ℕ
  budgetCapUsd : ℚ
  preregistered : Bool

/-- The metrics are always all of them, and the confidence level is 0.95. -/
structure GoldPreregistration where
  configHashes : List String
  primaryComparison : PrimaryComparison
  bootstrap : BootstrapSpec
  exclusions : List String
  stoppingRule : String
  cohort : GoldCohort
  codeCommit : String
  protectedOutputPathHash : String
  executor : ExecutorSpec
  exploratoryComparison : Option SolarExploratorySpec
  three : configHashes.length = 3
  unique : configHashes.Nodup
  digests : ∀ configHash ∈ configHashes, isHexDigest configHash
  /-- The primary comparison is of two of the configurations. -/
  frozen : primaryComparison.leftConfigHash ∈ configHashes ∧
    primaryComparison.rightConfigHash ∈ configHashes

structure PreregistrationEnvelope where
  preregistration : GoldPreregistration
  artifactSha256 : String

section Dumps

variable (platform : Platform)

def SolarExploratorySpec.modelDump (spec : SolarExploratorySpec) : Json :=
  .object
    [("model_ids", .array [.str spec.modelIds.1, .str spec.modelIds.2]),
      ("subset_membership_hash", .str spec.subsetMembershipHash),
      ("subset_size", .int spec.subsetSize),
      ("budget_cap_usd", .str (platform.decimalText spec.budgetCapUsd)),
      ("after_core_results", .bool true),
      ("preregistered", .bool spec.preregistered)]

/-- `preregistration.model_dump(mode="json")`. -/
def GoldPreregistration.modelDump (prereg : GoldPreregistration) : Json :=
  .object
    [("schema_version", .str "sealed-gold-preregistration-v1"),
      ("config_hashes", .array (prereg.configHashes.map .str)),
      ("metrics", .array (GoldMetric.all.map fun metric => .str metric.value)),
      ("primary_comparison", .object
        [("left_config_hash", .str prereg.primaryComparison.leftConfigHash),
          ("right_config_hash", .str prereg.primaryComparison.rightConfigHash),
          ("metric", .str prereg.primaryComparison.metric.value)]),
      ("bootstrap", .object
        [("method", .str "document-cluster-paired-bootstrap"),
          ("resamples", .int prereg.bootstrap.resamples),
          ("seed", .int prereg.bootstrap.seed),
          ("confidence_level", .float (.finite (19 / 20)))]),
      ("exclusions", .array (prereg.exclusions.map .str)),
      ("stopping_rule", .str prereg.stoppingRule),
      ("cohort", .object
        [("snapshot_id", .str prereg.cohort.snapshotId),
          ("content_sha256", .str prereg.cohort.contentSha256),
          ("item_count", .int prereg.cohort.itemCount),
          ("ordered_membership_hash",
            .str prereg.cohort.orderedMembershipHash)]),
      ("code_commit", .str prereg.codeCommit),
      ("protected_output_path_hash", .str prereg.protectedOutputPathHash),
      ("executor", .object
        [("entrypoint", .str prereg.executor.entrypoint),
          ("source_sha256", .str prereg.executor.sourceSha256)]),
      ("exploratory_comparison",
        (prereg.exploratoryComparison.map fun spec =>
          spec.modelDump platform).getD .null)]

/-- `_verify_envelope_hash`. -/
def verifyEnvelopeHash (envelope : PreregistrationEnvelope) :
    Except PyException Unit := do
  let actual ← platform.canonicalJsonHash
    (envelope.preregistration.modelDump platform)
  raiseIf (actual ≠ envelope.artifactSha256)
    (.valueError "preregistration artifact hash mismatch")

end Dumps

/-! ## Results -/

/-- What an executor scores. -/
structure GoldScores where
  correctness : PyFloat
  faithfulness : PyFloat
  citation : PyFloat
  abstention : PyFloat
  latency : PyFloat
  cost : PyFloat
  hit : PyFloat
  «recall» : PyFloat
  mrr : PyFloat
  outputHash : String

/-- `Field(ge=0, allow_inf_nan=False)`. -/
def isAmount : PyFloat → Bool
  | .finite value => 0 ≤ value
  | _ => false

/-- `Field(ge=0, le=1, allow_inf_nan=False)`. -/
def isUnit : PyFloat → Bool
  | .finite value => 0 ≤ value ∧ value ≤ 1
  | _ => false

def GoldScores.isValid (scores : GoldScores) : Bool :=
  isUnit scores.correctness ∧ isUnit scores.faithfulness ∧
    isUnit scores.citation ∧ isUnit scores.abstention ∧
    isAmount scores.latency ∧ isAmount scores.cost ∧ isUnit scores.hit ∧
    isUnit scores.recall ∧ isUnit scores.mrr ∧
    isHexDigest scores.outputHash

structure GoldResultFields extends GoldScores where
  configHash : String
  itemId : String
  questionType : String
  documentClusterId : String

namespace GoldResultFields

/-- The fields that tell results apart, without the configuration. -/
def identity (fields : GoldResultFields) : List String :=
  [fields.itemId, fields.questionType, fields.documentClusterId]

/-- The identity fields are stored stripped and are not blank. -/
def isValid (fields : GoldResultFields) : Bool :=
  isHexDigest fields.configHash ∧ isNormalized fields.identity ∧
    fields.toGoldScores.isValid

/-- `_identity_not_blank` on every identity field. -/
def stripped (fields : GoldResultFields) : GoldResultFields :=
  { fields with
    itemId := strip fields.itemId
    questionType := strip fields.questionType
    documentClusterId := strip fields.documentClusterId }

/-- `result.model_dump(mode="json")`. -/
def entries (fields : GoldResultFields) : List (String × Json) :=
  [("config_hash", .str fields.configHash),
    ("item_id", .str fields.itemId),
    ("question_type", .str fields.questionType),
    ("document_cluster_id", .str fields.documentClusterId),
    ("correctness", .float fields.correctness),
    ("faithfulness", .float fields.faithfulness),
    ("citation", .float fields.citation),
    ("abstention", .float fields.abstention),
    ("latency", .float fields.latency),
    ("cost", .float fields.cost),
    ("hit", .float fields.hit),
    ("recall", .float fields.recall),
    ("mrr", .float fields.mrr),
    ("output_hash", .str fields.outputHash)]

def names : List String :=
  ["config_hash", "item_id", "question_type", "document_cluster_id",
    "correctness", "faithfulness", "citation", "abstention", "latency",
    "cost", "hit", "recall", "mrr", "output_hash"]

/-- A strict float; integers are accepted, booleans are not. -/
def readFloat : Json → Option PyFloat
  | .float value => some value
  | .int value => some (.finite value)
  | _ => none

/-- The strict fields of a decoded result, without extra keys. -/
def ofEntries (entries : List (String × Json)) : Option GoldResultFields := do
  if entries.any fun entry => entry.1 ∉ names then none
  else
    let text (key : String) := (Json.get? entries key).bind GoldFields.readText
    let float (key : String) := (Json.get? entries key).bind readFloat
    return {
      configHash := ← text "config_hash"
      itemId := ← text "item_id"
      questionType := ← text "question_type"
      documentClusterId := ← text "document_cluster_id"
      correctness := ← float "correctness"
      faithfulness := ← float "faithfulness"
      citation := ← float "citation"
      abstention := ← float "abstention"
      latency := ← float "latency"
      cost := ← float "cost"
      hit := ← float "hit"
      «recall» := ← float "recall"
      mrr := ← float "mrr"
      outputHash := ← text "output_hash" }

end GoldResultFields

/-- A validated `GoldEvaluationResult`. -/
structure GoldEvaluationResult extends GoldResultFields where
  valid : toGoldResultFields.isValid = true

/-- `GoldEvaluationResult(**fields)`: constraints first, then stripping. -/
def GoldResultFields.validate (fields : GoldResultFields) :
    Except PyException GoldEvaluationResult :=
  if "" ∈ fields.identity then
    .error (validationError "GoldEvaluationResult")
  else if valid : fields.stripped.isValid = true then
    .ok { toGoldResultFields := fields.stripped, valid }
  else .error (validationError "GoldEvaluationResult")

def GoldEvaluationResult.modelDump (result : GoldEvaluationResult) : Json :=
  .object result.entries

/-- `GoldEvaluationResult.model_validate(payload)`. -/
def GoldEvaluationResult.modelValidate :
    Json → Except PyException GoldEvaluationResult
  | .object entries =>
      match GoldResultFields.ofEntries entries with
      | some fields => fields.validate
      | none => .error (validationError "GoldEvaluationResult")
  | _ => .error (validationError "GoldEvaluationResult")

end RagBench
