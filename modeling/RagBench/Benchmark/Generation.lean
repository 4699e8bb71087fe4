import RagBench.Providers.Pricing

/-!
# Benchmark generation plans

A plan assigns a source window to every planned question and cuts the jobs
into batches.  The first plan and the replacement plans use the same greedy
round-robin over windows; they differ in the windows, in the counts they start
from and in the names they give.
-/

namespace RagBench

inductive QuestionType where
  | fact
  | numericTable
  | comparison
  | multihop
  | unanswerable
  | complexSummary
  deriving DecidableEq, Repr

def QuestionType.value : QuestionType → String
  | .fact => "fact"
  | .numericTable => "numeric_table"
  | .comparison => "comparison"
  | .multihop => "multihop"
  | .unanswerable => "unanswerable"
  | .complexSummary => "complex_summary"

abbrev Quotas := Dict QuestionType ℕ

/-- `DEFAULT_QUOTAS`. -/
def defaultQuotas : Quotas :=
  .ofList
    [(.fact, 300), (.numericTable, 300), (.comparison, 250),
      (.multihop, 250), (.unanswerable, 200), (.complexSummary, 200)]

structure SourceUnit where
  page : ℕ
  chunkId : String
  content : String
  deriving DecidableEq

structure SourceWindow where
  windowId : String
  documentId : String
  documentTitle : String
  pageStart : ℕ
  pageEnd : ℕ
  chunkIds : List String
  content : String
  sourceUnits : List SourceUnit
  pages_ordered : pageStart ≤ pageEnd
  units_within : ∀ unit ∈ sourceUnits,
    pageStart ≤ unit.page ∧ unit.page ≤ pageEnd
  deriving DecidableEq

structure GenerationConfig where
  quotas : Quotas
  quotas_positive : ∀ kind count, quotas.get? kind = some count → 0 < count
  perDocumentCap : ℕ := 300
  perPageCap : ℕ := 30
  batchSize : ℕ := 12
  batchSize_positive : 0 < batchSize := by decide
  sourceWindowMaxChars : ℕ := 20000
  maxOutputTokens : ℕ := 8000
  promptVersion : String := "benchmark-v1"
  normalCompletionFloor : ℤ := 1000
  emergencyFloor : ℤ := 800

structure GenerationJob where
  ordinal : ℕ
  questionType : QuestionType
  window : SourceWindow
  deriving DecidableEq

structure GenerationBatch where
  batchId : String
  jobs : List GenerationJob
  deriving DecidableEq

structure GenerationPlan where
  planHash : String
  corpusSnapshotId : String
  modelId : String
  promptVersion : String
  jobs : List GenerationJob
  batches : List GenerationBatch
  deriving DecidableEq

/-! ## Dumps -/

def SourceUnit.dump (unit : SourceUnit) : Json :=
  .object
    [("page", .int unit.page), ("chunk_id", .str unit.chunkId),
      ("content", .str unit.content)]

def SourceWindow.dump (window : SourceWindow) : Json :=
  .object
    [("window_id", .str window.windowId),
      ("document_id", .str window.documentId),
      ("document_title", .str window.documentTitle),
      ("page_start", .int window.pageStart),
      ("page_end", .int window.pageEnd),
      ("chunk_ids", .array (window.chunkIds.map .str)),
      ("content", .str window.content),
      ("source_units", .array (window.sourceUnits.map SourceUnit.dump))]

def Quotas.dump (quotas : Quotas) : Json :=
  .object (quotas.entries.map fun entry => (entry.1.value, .int entry.2))

def GenerationConfig.dump (config : GenerationConfig) : Json :=
  .object
    [("quotas", Quotas.dump config.quotas),
      ("per_document_cap", .int config.perDocumentCap),
      ("per_page_cap", .int config.perPageCap),
      ("batch_size", .int config.batchSize),
      ("source_window_max_chars", .int config.sourceWindowMaxChars),
      ("max_output_tokens", .int config.maxOutputTokens),
      ("prompt_version", .str config.promptVersion),
      ("normal_completion_floor", .int config.normalCompletionFloor),
      ("emergency_floor", .int config.emergencyFloor)]

def GenerationJob.dump (job : GenerationJob) : Json :=
  .object
    [("ordinal", .int job.ordinal),
      ("question_type", .str job.questionType.value),
      ("window", job.window.dump)]

/-! ## Source counts and the choice of windows -/

def SourceWindow.pages (window : SourceWindow) : List ℕ :=
  List.range' window.pageStart (window.pageEnd + 1 - window.pageStart)

/-- How often documents and pages have been used. -/
structure SourceCounts where
  documents : Dict String ℕ
  pages : Dict (String × ℕ) ℕ

namespace SourceCounts

def empty : SourceCounts :=
  { documents := .empty
    pages := .empty }

/-- Neither the document nor a page of the window is at its cap. -/
def admits (config : GenerationConfig) (counts : SourceCounts)
    (window : SourceWindow) : Bool :=
  counts.documents.getD window.documentId 0 < config.perDocumentCap ∧
    window.pages.all fun page =>
      counts.pages.getD (window.documentId, page) 0 < config.perPageCap

def record (counts : SourceCounts) (window : SourceWindow) : SourceCounts :=
  { documents := counts.documents.set window.documentId
      (counts.documents.getD window.documentId 0 + 1)
    pages := window.pages.foldl (fun pages page =>
      pages.set (window.documentId, page)
        (pages.getD (window.documentId, page) 0 + 1)) counts.pages }

end SourceCounts

/-- The first admitted window from the cursor on, and the next cursor. -/
def chooseWindow (config : GenerationConfig) (counts : SourceCounts)
    (windows : List SourceWindow) (cursor : ℕ) : Option (SourceWindow × ℕ) :=
  (List.range windows.length).findSome? fun offset =>
    let index := (cursor + offset) % windows.length
    match windows[index]? with
    | some window =>
        if counts.admits config window then
          some (window, (index + 1) % windows.length)
        else none
    | none => none

/-- One window for each question, or `none` when the capacity runs out. -/
def allocate (config : GenerationConfig) (windows : List SourceWindow) :
    SourceCounts → ℕ → List QuestionType →
      Option (List (QuestionType × SourceWindow))
  | _, _, [] => some []
  | counts, cursor, kind :: kinds =>
      match chooseWindow config counts windows cursor with
      | none => none
      | some (window, next) =>
          (allocate config windows (counts.record window) next kinds).map
            ((kind, window) :: ·)

/-- Every kind as often as its quota says, in the order of the quotas. -/
def expandedTypes (quotas : Quotas) : List QuestionType :=
  quotas.entries.flatMap fun entry => List.replicate entry.2 entry.1

def numberJobs (first : ℕ) (assigned : List (QuestionType × SourceWindow)) :
    List GenerationJob :=
  assigned.zipIdx.map fun ((kind, window), index) =>
    ⟨first + index, kind, window⟩

def cutBatches (config : GenerationConfig) (namePrefix : String)
    (jobs : List GenerationJob) : List GenerationBatch :=
  (List.range ((jobs.length + config.batchSize - 1) / config.batchSize)).map
    fun index =>
      { batchId := namePrefix ++ fourDigits index
        jobs := (jobs.drop (index * config.batchSize)).take config.batchSize }

/-! ## Planning -/

/-- The sort key of `plan`. -/
def SourceWindow.before (first second : SourceWindow) : Bool :=
  if first.documentId ≠ second.documentId then
    first.documentId < second.documentId
  else if first.pageStart ≠ second.pageStart then
    first.pageStart < second.pageStart
  else if first.pageEnd ≠ second.pageEnd then
    first.pageEnd < second.pageEnd
  else first.windowId ≤ second.windowId

def totalQuota (quotas : Quotas) : ℕ :=
  quotas.values.sum

namespace GenerationConfig

variable (config : GenerationConfig)

def documentCapacity (windows : List SourceWindow) : ℕ :=
  (distinct (windows.map (·.documentId))).length * config.perDocumentCap

def pageCapacity (windows : List SourceWindow) : ℕ :=
  (distinct (windows.flatMap fun window =>
    window.pages.map fun page => (window.documentId, page))).length *
      config.perPageCap

/-- `GenerationPlanner.plan`. -/
def plan (platform : Platform) (windows : List SourceWindow)
    (corpusSnapshotId modelId : String) :
    Except PyException GenerationPlan := do
  let ordered := windows.mergeSort SourceWindow.before
  if ordered = [] then
    throw (.valueError "generation requires source windows")
  if ordered.any fun window =>
      window.content.length > config.sourceWindowMaxChars then
    throw (.valueError "all source windows must be bounded before planning")
  if min (config.documentCapacity ordered) (config.pageCapacity ordered) <
      totalQuota config.quotas then
    throw (.valueError "source capacity cannot satisfy quotas and caps")
  match allocate config ordered .empty 0 (expandedTypes config.quotas) with
  | none => throw (.valueError
      "source capacity exhausted while applying quotas and caps")
  | some assigned => do
      let jobs := numberJobs 0 assigned
      let planHash ← platform.canonicalJsonHash (.object
        [("schema", .str "benchmark-generation-plan-v1"),
          ("corpus_snapshot_id", .str corpusSnapshotId),
          ("model_id", .str modelId),
          ("prompt_version", .str config.promptVersion),
          ("config", config.dump),
          ("jobs", .array (jobs.map GenerationJob.dump))])
      return {
        planHash := planHash
        corpusSnapshotId := corpusSnapshotId
        modelId := modelId
        promptVersion := config.promptVersion
        jobs := jobs
        batches := cutBatches config "batch-" jobs }

/-- `target_quotas or self.config.quotas`. -/
def refillQuotas (targetQuotas : Option Quotas) : Quotas :=
  match targetQuotas with
  | none => config.quotas
  | some quotas => if quotas.entries = [] then config.quotas else quotas

/-- The missing questions of each kind, where some are missing. -/
def deficits (targets : Quotas) (acceptedCounts : Quotas) :
    List (QuestionType × ℕ) :=
  (targets.entries.map fun entry =>
    (entry.1, entry.2 - acceptedCounts.getD entry.1 0)).filter
      fun entry => entry.2 ≠ 0

/-- The counts of all jobs of the plans. -/
def usedSources (plans : List GenerationPlan) : SourceCounts :=
  (plans.flatMap (·.jobs)).foldl (fun counts job => counts.record job.window)
    .empty

/-- The message of `plan_replacements` when nothing is missing. -/
def noDeficitError : PyException :=
  .valueError "replacement plan requires at least one quota deficit"

/-- `GenerationPlanner.plan_replacements`. -/
def planReplacements (platform : Platform) (parent : GenerationPlan)
    (acceptedCounts : Quotas) (attempt : ℕ) (targetQuotas : Option Quotas)
    (priorPlans : List GenerationPlan) : Except PyException GenerationPlan := do
  if attempt = 0 then
    throw (.valueError "replacement attempt must be positive")
  let missing := deficits (config.refillQuotas targetQuotas) acceptedCounts
  if missing = [] then
    throw noDeficitError
  let windows := distinct (parent.jobs.map (·.window))
  let prior := if priorPlans = [] then [parent] else priorPlans
  let kinds := missing.flatMap fun entry => List.replicate entry.2 entry.1
  match allocate config windows (usedSources prior) 0 kinds with
  | none => throw (.valueError
      "replacement source capacity exhausted under campaign caps")
  | some assigned => do
      let jobs := numberJobs (attempt * 1000000) assigned
      let planHash ← platform.canonicalJsonHash (.object
        [("schema", .str "benchmark-replacement-plan-v1"),
          ("parent_plan_hash", .str parent.planHash),
          ("attempt", .int attempt),
          ("deficits", .object (missing.map fun entry =>
            (entry.1.value, .int entry.2))),
          ("prior_plan_hashes", .array (prior.map fun plan =>
            .str plan.planHash)),
          ("jobs", .array (jobs.map GenerationJob.dump))])
      return {
        planHash := planHash
        corpusSnapshotId := parent.corpusSnapshotId
        modelId := parent.modelId
        promptVersion := parent.promptVersion
        jobs := jobs
        batches := cutBatches config
          ("replacement-" ++ fourDigits attempt ++ "-") jobs }

/-- The windows and the plans which `plan_replacements` starts from. -/
theorem planReplacements_ok {config : GenerationConfig} {platform : Platform}
    {parent next : GenerationPlan} {acceptedCounts : Quotas} {attempt : ℕ}
    {targetQuotas : Option Quotas} {priorPlans : List GenerationPlan}
    (planned : config.planReplacements platform parent acceptedCounts attempt
      targetQuotas priorPlans = .ok next) :
    attempt ≠ 0 ∧
      deficits (config.refillQuotas targetQuotas) acceptedCounts ≠ [] ∧
      ∃ assigned planHash,
        allocate config (distinct (parent.jobs.map (·.window)))
          (usedSources (if priorPlans = [] then [parent] else priorPlans)) 0
          ((deficits (config.refillQuotas targetQuotas)
            acceptedCounts).flatMap fun entry =>
              List.replicate entry.2 entry.1) = some assigned ∧
        next =
          { planHash := planHash
            corpusSnapshotId := parent.corpusSnapshotId
            modelId := parent.modelId
            promptVersion := parent.promptVersion
            jobs := numberJobs (attempt * 1000000) assigned
            batches := cutBatches config
              ("replacement-" ++ fourDigits attempt ++ "-")
              (numberJobs (attempt * 1000000) assigned) } := by
  have attempted : attempt ≠ 0 := by
    rintro rfl
    cases planned
  have missing :
      deficits (config.refillQuotas targetQuotas) acceptedCounts ≠ [] := by
    intro none
    simp only [planReplacements, if_neg attempted, if_pos none] at planned
    cases planned
  simp only [planReplacements, if_neg attempted, if_neg missing] at planned
  split at planned
  · cases planned
  · next assigned allocated =>
      obtain ⟨planHash, -, returned⟩ := bind_eq_ok.mp planned
      exact ⟨attempted, missing, assigned, planHash, allocated,
        (Except.ok.inj returned).symm⟩

end GenerationConfig

/-! ## Prompts and prices -/

/-- `_generation_prompt`. -/
def generationPrompt (platform : Platform) (plan : GenerationPlan)
    (batch : GenerationBatch) : Except PyException String := do
  let jobs ← batch.jobs.mapM fun job => do
    let windowHash ← platform.canonicalJsonHash job.window.dump
    return Json.object
      [("ordinal", .int job.ordinal),
        ("question_type", .str job.questionType.value),
        ("source_window", job.window.dump),
        ("source_window_hash", .str windowHash)]
  return platform.jsonDumps (.object
    [("plan_hash", .str plan.planHash),
      ("batch_id", .str batch.batchId),
      ("requirements", .array
        [.str ("Return a JSON object with a candidates array, " ++
            "one candidate per job in order."),
          .str ("Copy every evidence span verbatim from its bounded " ++
            "source window."),
          .str ("Use only supplied source text; include reasoning_kind " ++
            "metadata."),
          .str ("For unanswerable jobs, transform a fact and assert the " ++
            "replacement is absent.")]),
      ("jobs", .array jobs)])

/-- The input tokens of a batch. -/
def promptTokens (platform : Platform) (plan : GenerationPlan)
    (batch : GenerationBatch) : Except PyException ℕ := do
  let prompt ← generationPrompt platform plan batch
  let tokens ← platform.tokenCount prompt
  return tokens + 16

/-- The net price of a batch with that many input tokens. -/
def batchPrice (platform : Platform) (config : GenerationConfig)
    (priceBook : PriceBook) (modelId : String) (inputTokens : ℕ) :
    Except PyException ℚ :=
  priceBook.estimate platform.context 0
    { operation := .generate
      modelId := modelId
      inputTokens := inputTokens
      outputTokens := config.maxOutputTokens }

/-- `projected_generation_cost`. -/
def projectedGenerationCost (platform : Platform) (config : GenerationConfig)
    (priceBook : PriceBook) (billingMultiplier : ℚ) (plan : GenerationPlan) :
    Except PyException ℚ := do
  if billingMultiplier < 1 then
    throw (.valueError "billing multiplier must be at least one")
  let prices ← plan.batches.mapM fun batch => do
    let tokens ← promptTokens platform plan batch
    batchPrice platform config priceBook plan.modelId tokens
  return prices.sum * billingMultiplier

end RagBench
