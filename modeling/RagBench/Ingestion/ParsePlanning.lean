import RagBench.Providers.Pricing

/-!
# Parse plans

A parse plan prices the pages of all documents without a valid checkpoint in
one estimate.  The gateway later asks for these documents one by one, and for
a large document chunk by chunk.
-/

namespace RagBench

inductive ParseMode where
  | standard
  | enhanced
  deriving DecidableEq, Repr

def ParseMode.value : ParseMode → String
  | .standard => "standard"
  | .enhanced => "enhanced"

/-- `cacheHit` says that the checkpoint of the document is valid. -/
structure PlannedDocument where
  documentId : String
  sourceSha256 : String
  pages : ℕ
  cacheHit : Bool
  sourceSize : ℕ
  sourceMtimeNs : ℤ
  deriving DecidableEq

def PlannedDocument.dump (document : PlannedDocument) : Json :=
  .object
    [("document_id", .str document.documentId),
      ("source_sha256", .str document.sourceSha256),
      ("pages", .int document.pages),
      ("cache_hit", .bool document.cacheHit),
      ("source_size", .int document.sourceSize),
      ("source_mtime_ns", .int document.sourceMtimeNs)]

structure ParsePlan where
  snapshotId : String
  mode : ParseMode
  modelId : String
  modelVersion : String
  priceSnapshotHash : String
  documents : List PlannedDocument
  projectedNewCalls : ℕ
  projectedBillablePages : ℕ
  baseCostUsd : ℚ
  vatBuffer : ℚ
  worstCaseCostUsd : ℚ
  settledCostUsd : ℚ
  postRunRemainingBudgetUsd : ℚ
  corruptCheckpoints : ℕ
  planHash : String

/-- `priceSnapshotHash` is the canonical hash of the loaded price book. -/
structure ParserPipeline where
  platform : Platform
  priceBook : PriceBook
  priceSnapshotHash : String
  modelId : String
  modelVersion : String
  hardBudgetUsd : ℚ
  vatBuffer : ℚ
  vatBuffer_nonneg : 0 ≤ vatBuffer

/-- The documents that have to be parsed. -/
def newDocuments (documents : List PlannedDocument) : List PlannedDocument :=
  documents.filter fun document => !document.cacheHit

namespace ParsePlan

/-- The material of the plan hash. -/
def identity (platform : Platform) (plan : ParsePlan) : Json :=
  .object
    [("schema_version", .str "parse-plan-v1"),
      ("snapshot_id", .str plan.snapshotId),
      ("mode", .str plan.mode.value),
      ("model_id", .str plan.modelId),
      ("model_version", .str plan.modelVersion),
      ("price_snapshot_hash", .str plan.priceSnapshotHash),
      ("documents", .array (plan.documents.map PlannedDocument.dump)),
      ("projected_new_calls", .int plan.projectedNewCalls),
      ("projected_billable_pages", .int plan.projectedBillablePages),
      ("base_cost_usd", .str (platform.decimalText plan.baseCostUsd)),
      ("vat_buffer", .str (platform.decimalText plan.vatBuffer)),
      ("worst_case_cost_usd",
        .str (platform.decimalText plan.worstCaseCostUsd)),
      ("settled_cost_usd", .str (platform.decimalText plan.settledCostUsd)),
      ("post_run_remaining_budget_usd",
        .str (platform.decimalText plan.postRunRemainingBudgetUsd))]

end ParsePlan

/-- `plan_corpus`, once the checkpoints of the documents have been looked up
and the corrupt ones counted. -/
def ParserPipeline.planCorpus (pipeline : ParserPipeline)
    (snapshotId : String) (mode : ParseMode)
    (documents : List PlannedDocument) (corruptCheckpoints : ℕ)
    (settledCostUsd : ℚ) : Except PyException ParsePlan := do
  let context := pipeline.platform.context
  let billablePages : ℕ := ((newDocuments documents).map (·.pages)).sum
  let base ← pipeline.priceBook.estimate context 0
    { operation := .parse
      modelId := pipeline.modelId
      billablePages := billablePages
      mode := mode.value }
  let worst ← money context
    (context.fix (base * context.fix (1 + pipeline.vatBuffer)))
  let remaining ← money context
    (context.fix (context.fix (pipeline.hardBudgetUsd - settledCostUsd) -
      worst))
  let plan : ParsePlan :=
    { snapshotId := snapshotId
      mode := mode
      modelId := pipeline.modelId
      modelVersion := pipeline.modelVersion
      priceSnapshotHash := pipeline.priceSnapshotHash
      documents := documents
      projectedNewCalls := (newDocuments documents).length
      projectedBillablePages := billablePages
      baseCostUsd := base
      vatBuffer := pipeline.vatBuffer
      worstCaseCostUsd := worst
      settledCostUsd := settledCostUsd
      postRunRemainingBudgetUsd := remaining
      corruptCheckpoints := corruptCheckpoints
      planHash := "" }
  let planHash ← pipeline.platform.canonicalJsonHash
    (plan.identity pipeline.platform)
  return { plan with planHash := planHash }

/-- The page counts of the chunks `_pdf_chunks` cuts. -/
def chunkPages (pages maxPages : ℕ) : List ℕ :=
  (List.range ((pages + maxPages - 1) / maxPages)).map fun index =>
    min (index * maxPages + maxPages) pages - index * maxPages

/-- The pages of the provider calls for a document of which nothing is
cached. -/
def parseCallPages (mode : ParseMode) (pages : ℕ) : List ℕ :=
  let maxPages := maxSyncParsePages mode.value
  if pages ≤ maxPages then [pages]
  else
    match mode with
    | .standard => chunkPages pages maxPages
    | .enhanced => (chunkPages pages maxPages).flatMap fun chunk =>
        if 1 < chunk then chunkPages chunk 1 else [chunk]

/-- The pages of all provider calls a plan covers. -/
def ParsePlan.callPages (plan : ParsePlan) : List ℕ :=
  (newDocuments plan.documents).flatMap fun document =>
    parseCallPages plan.mode document.pages

/-- The chunks of the gateway have these pages. -/
theorem pdfChunks_pages {platform : Platform} {request : ParseRequest}
    {maxPages pages : ℕ} {chunks : List (ℕ × ℕ × Bytes)}
    (declared : request.billablePages = pages)
    (cut : pdfChunks platform request maxPages = .ok chunks) :
    chunks.map (fun chunk => chunk.2.1) = chunkPages pages maxPages := by
  obtain ⟨counted, -, looped⟩ := bind_eq_ok.mp cut
  split_ifs at looped with differs
  · cases looped
  · obtain rfl : counted = pages := by
      have same := not_not.mp differs
      rw [declared] at same
      exact_mod_cast same
    rw [List.mapM_map, mapM_eq_ok] at looped
    clear cut
    unfold chunkPages
    generalize List.range ((counted + maxPages - 1) / maxPages) = indices
      at looped ⊢
    induction looped with
    | nil => rfl
    | cons first _ induction =>
        obtain ⟨content, -, returned⟩ := bind_eq_ok.mp first
        rw [List.map_cons, List.map_cons, induction,
          ← Except.ok.inj returned]

end RagBench
