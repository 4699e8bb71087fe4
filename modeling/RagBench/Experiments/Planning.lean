import Mathlib.Data.Finset.Dedup
import RagBench.Providers.Pricing
import RagBench.Rag.Prompts

/-!
# Experiment configurations and dry-run plans

A dry-run plan is what an operator approves before an experiment is paid for:
the price of one call at the configured token bounds, times the number of
calls, with the tax on top and rounded up.
-/

namespace RagBench

structure SnapshotConfig where
  corpus : String
  parse : String
  chunks : String
  embeddings : String
  questions : String

structure RetrievalBinding where
  configHash : String
  topK : ℕ

/-- The provider is always `upstage`. -/
structure GenerationBinding where
  modelAlias : String
  modelId : String
  promptVersion : PromptVersion
  temperature : ℚ
  maxOutputTokens : ℕ
  worstCaseInputTokens : ℕ
  maxOutputTokens_positive : 0 < maxOutputTokens
  worstCaseInputTokens_positive : 0 < worstCaseInputTokens

structure EvaluationBinding where
  deterministicVersion : String
  judgeModelId : String
  judgePromptVersion : String

structure ConcurrencyEvidence where
  sampleSize : ℕ
  errorWindow : ℕ
  providerErrorRate : ℚ
  rateLimit429 : ℚ
  artifactHash : String

inductive Concurrency where
  | five
  | ten
  deriving DecidableEq, Repr

def Concurrency.value : Concurrency → ℕ
  | .five => 5
  | .ten => 10

structure RuntimeConfig where
  concurrency : Concurrency
  maxRetries : ℕ
  seed : ℕ
  batchCap : ℕ
  budgetCapUsd : ℚ
  schemaErrorRateStop : ℚ
  providerErrorRateStop : ℚ
  errorWindow : ℕ
  concurrencyEvidence : Option ConcurrencyEvidence
  batchCap_positive : 0 < batchCap
  schemaErrorRate_bounds : 0 < schemaErrorRateStop ∧ schemaErrorRateStop ≤ 1
  providerErrorRate_bounds :
    0 < providerErrorRateStop ∧ providerErrorRateStop ≤ 1
  errorWindow_positive : 0 < errorWindow
  evidence_shape : concurrency = .ten ↔ concurrencyEvidence ≠ none

structure ExperimentConfig where
  name : String
  snapshots : SnapshotConfig
  retrieval : RetrievalBinding
  generation : GenerationBinding
  evaluation : EvaluationBinding
  runtime : RuntimeConfig
  questionIds : List String
  outputDir : String
  codeCommit : String
  questions_unique : questionIds.Nodup
  questions_nonempty : questionIds ≠ []
  batch_bounded : runtime.batchCap ≤ questionIds.length

/-! ## The semantic hash -/

section Dumps

variable (platform : Platform)

def ConcurrencyEvidence.dump (evidence : ConcurrencyEvidence) : Json :=
  .object
    [("sample_size", .int evidence.sampleSize),
      ("error_window", .int evidence.errorWindow),
      ("provider_error_rate", .float (.finite evidence.providerErrorRate)),
      ("rate_limit_429", .float (.finite evidence.rateLimit429)),
      ("artifact_hash", .str evidence.artifactHash)]

def RuntimeConfig.dump (runtime : RuntimeConfig) : Json :=
  .object
    [("concurrency", .int runtime.concurrency.value),
      ("max_retries", .int runtime.maxRetries),
      ("seed", .int runtime.seed),
      ("batch_cap", .int runtime.batchCap),
      ("budget_cap_usd", .str (platform.decimalText runtime.budgetCapUsd)),
      ("schema_error_rate_stop",
        .float (.finite runtime.schemaErrorRateStop)),
      ("provider_error_rate_stop",
        .float (.finite runtime.providerErrorRateStop)),
      ("error_window", .int runtime.errorWindow),
      ("concurrency_evidence",
        (runtime.concurrencyEvidence.map ConcurrencyEvidence.dump).getD .null)]

/-- `model_dump(mode="json", exclude={"name", "output_dir"})`. -/
def ExperimentConfig.dump (config : ExperimentConfig) : Json :=
  .object
    [("schema_version", .str "generation-experiment-v1"),
      ("snapshots", .object
        [("corpus", .str config.snapshots.corpus),
          ("parse", .str config.snapshots.parse),
          ("chunks", .str config.snapshots.chunks),
          ("embeddings", .str config.snapshots.embeddings),
          ("questions", .str config.snapshots.questions)]),
      ("retrieval", .object
        [("config_hash", .str config.retrieval.configHash),
          ("top_k", .int config.retrieval.topK)]),
      ("generation", .object
        [("provider", .str "upstage"),
          ("model_alias", .str config.generation.modelAlias),
          ("model_id", .str config.generation.modelId),
          ("prompt_version", .str config.generation.promptVersion.value),
          ("temperature", .float (.finite config.generation.temperature)),
          ("max_output_tokens", .int config.generation.maxOutputTokens),
          ("worst_case_input_tokens",
            .int config.generation.worstCaseInputTokens)]),
      ("evaluation", .object
        [("deterministic_version",
            .str config.evaluation.deterministicVersion),
          ("judge_model_id", .str config.evaluation.judgeModelId),
          ("judge_prompt_version",
            .str config.evaluation.judgePromptVersion)]),
      ("runtime", config.runtime.dump platform),
      ("question_ids", .array (config.questionIds.map .str)),
      ("code_commit", .str config.codeCommit)]

/-- `canonical_json_hash(config.model_dump(mode="json"))`. -/
def ExperimentConfig.fullHash (config : ExperimentConfig) :
    Except PyException String :=
  match config.dump platform with
  | .object entries => platform.canonicalJsonHash (.object
      (("name", .str config.name) ::
        ("output_dir", .str config.outputDir) :: entries))
  | other => platform.canonicalJsonHash other

def ExperimentConfig.semanticHash (config : ExperimentConfig) :
    Except PyException String :=
  platform.canonicalJsonHash (config.dump platform)

end Dumps

/-! ## Dry-run plans -/

structure DryRunPlan where
  configHash : String
  planHash : String
  questionCount : ℕ
  cachedCalls : Option ℕ
  newCalls : Option ℕ
  worstCaseInputTokens : ℕ
  worstCaseOutputTokens : ℕ
  netWorstCostUsd : ℚ
  vatMultiplier : ℚ
  grossWorstCostUsd : ℚ
  experimentBudgetCapUsd : ℚ
  concurrency : Concurrency
  modelAlias : String
  modelId : String
  promptVersion : PromptVersion
  destinations : List String

namespace DryRunPlan

def cacheStatus (plan : DryRunPlan) : String :=
  if plan.newCalls.isSome then "known" else "unknown"

def worstCaseTokens (plan : DryRunPlan) : ℕ :=
  plan.worstCaseInputTokens + plan.worstCaseOutputTokens

/-- The calls the plan is priced for. -/
def pricedCalls (plan : DryRunPlan) : ℕ :=
  plan.newCalls.getD plan.questionCount

/-- The material of the plan hash. -/
def identity (platform : Platform) (plan : DryRunPlan) : Json :=
  .object
    [("schema", .str "experiment-dry-run-v1"),
      ("config_hash", .str plan.configHash),
      ("question_count", .int plan.questionCount),
      ("cached_calls", (plan.cachedCalls.map fun count =>
        Json.int count).getD .null),
      ("new_calls", (plan.newCalls.map fun count =>
        Json.int count).getD .null),
      ("cache_status", .str plan.cacheStatus),
      ("worst_case_input_tokens", .int plan.worstCaseInputTokens),
      ("worst_case_output_tokens", .int plan.worstCaseOutputTokens),
      ("net_worst_cost_usd",
        .str (platform.decimalText plan.netWorstCostUsd)),
      ("vat_multiplier", .str (platform.decimalText plan.vatMultiplier)),
      ("gross_worst_cost_usd",
        .str (platform.decimalText plan.grossWorstCostUsd)),
      ("experiment_budget_cap_usd",
        .str (platform.decimalText plan.experimentBudgetCapUsd)),
      ("concurrency", .int plan.concurrency.value),
      ("model_alias", .str plan.modelAlias),
      ("model_id", .str plan.modelId),
      ("prompt_version", .str plan.promptVersion.value),
      ("destinations", .array (plan.destinations.map .str))]

end DryRunPlan

/-- A small experiment on the given questions. -/
theorem sampleIds_nodup : ["a", "b", "c"].Nodup := by decide

theorem sampleIds_ne_nil : ["a", "b", "c"] ≠ [] := by decide

def sampleExperiment (questionIds : List String)
    (unique : questionIds.Nodup) (nonempty : questionIds ≠ []) :
    ExperimentConfig :=
  { name := "sample"
    snapshots := ⟨"corpus", "parse", "chunks", "embeddings", "questions"⟩
    retrieval := ⟨"hash", 5⟩
    generation :=
      { modelAlias := "alias"
        modelId := "model"
        promptVersion := .v1
        temperature := 0
        maxOutputTokens := 2
        worstCaseInputTokens := 2
        maxOutputTokens_positive := by decide
        worstCaseInputTokens_positive := by decide }
    evaluation := ⟨"deterministic", "judge", "v1"⟩
    runtime :=
      { concurrency := .five
        maxRetries := 1
        seed := 0
        batchCap := questionIds.length
        budgetCapUsd := 10
        schemaErrorRateStop := 1 / 2
        providerErrorRateStop := 1 / 2
        errorWindow := 2
        concurrencyEvidence := none
        batchCap_positive := List.length_pos_of_ne_nil nonempty
        schemaErrorRate_bounds := by norm_num
        providerErrorRate_bounds := by norm_num
        errorWindow_positive := by decide
        evidence_shape := by simp }
    questionIds := questionIds
    outputDir := "runs"
    codeCommit := "0123456"
    questions_unique := unique
    questions_nonempty := nonempty
    batch_bounded := le_rfl }

end RagBench
