import RagBench.Execution
import RagBench.Ingestion.ParseCheckpoint
import RagBench.Providers.Gateway

/-!
# Parsing a corpus

`parse_corpus` is a program over the repository, the gateway and the source
files.  The settled cost is read before the plan is priced; nothing is written
in between.
-/

namespace RagBench

/-- What `parse_corpus` awaits, or reads from its environment.  `elapsedMs` is
the latency since the attempt began. -/
inductive CorpusOp where
  | get (key : CheckpointKey)
  | put (checkpoint : ParseCheckpoint)
  | enterSingleflight (identity : String)
  | exitSingleflight (identity : String)
  | sourceMetadata (document : DocumentRecord)
  | readSource (document : DocumentRecord)
  | parse (request : ParseRequest)
  | settledCostUsd
  | now
  | elapsedMs

abbrev CorpusReply : CorpusOp → Type
  | .get _ => Option ParseCheckpoint
  | .put _ => Unit
  | .enterSingleflight _ => Unit
  | .exitSingleflight _ => Unit
  | .sourceMetadata _ => ℕ × ℤ
  | .readSource _ => Bytes
  | .parse _ => ParsedDocument
  | .settledCostUsd => ℚ
  | .now => Timestamp
  | .elapsedMs => ℕ

abbrev CorpusM := Program CorpusOp CorpusReply PyException

open Program (await fromExcept)

/-- `confirmedPlanHash` is that of the authorization, if there is one. -/
structure CorpusParser extends ParserPipeline where
  snapshots : Dict String CorpusSnapshot
  verifiedAt : Timestamp
  confirmedPlanHash : Option String

/-- `_mode`. -/
def ParseMode.ofString (value : String) : Except PyException ParseMode :=
  if value = "standard" then .ok .standard
  else if value = "enhanced" then .ok .enhanced
  else .error (.valueError "mode must be 'standard' or 'enhanced'")

/-- `verify_paid_batch`. -/
def PriceBook.verifyPaidBatch (book : PriceBook) (verifiedAt now : Timestamp) :
    Except PyException Unit := do
  if now - verifiedAt > 24 * 60 * 60 * 1000000 then
    throw ⟨.derived "StalePriceBookError" priceBookErrorClass,
      "price snapshot is older than 24 hours"⟩
  book.models.entries.forM fun model =>
    match model.2.embedding with
    | none => .ok ()
    | some rates => do
        let promotion ← mapping "promotion" rates.promotion
        if promotion.endsAtExclusive.isNone ∨
            promotion.inputUsdPerMillion.isNone ∨
            rates.inputUsdPerMillion.isNone then
          throw ⟨.derived "AmbiguousPromotionError" priceBookErrorClass,
            "embedding promotion status is ambiguous"⟩

structure ParseFailure where
  documentId : String
  error : String
  deriving DecidableEq

structure ParseSummary where
  snapshotId : String
  mode : ParseMode
  planHash : String
  totalDocuments : ℕ
  totalPages : ℕ
  cacheHits : ℕ
  cachedSuccesses : ℕ
  cachedSuccessPages : ℕ
  newSuccesses : ℕ
  succeededDocuments : ℕ
  succeededPages : ℕ
  failedDocuments : ℕ
  failedPages : ℕ
  retriedCorruptCheckpoints : ℕ
  estimatedNewCostUsd : ℚ
  failures : List ParseFailure

/-- How the round of a document ends. -/
inductive ParseRound where
  | cached
  | succeeded
  | failed (failure : ParseFailure)

/-- The counters of the loop over the documents. -/
structure ParseTally where
  failures : List ParseFailure := []
  newSuccesses : ℕ := 0
  newSuccessPages : ℕ := 0
  dynamicCacheHits : ℕ
  dynamicCachedPages : ℕ

def ParseTally.count (tally : ParseTally) (pages : ℕ) :
    ParseRound → ParseTally
  | .cached =>
      { tally with
        dynamicCacheHits := tally.dynamicCacheHits + 1
        dynamicCachedPages := tally.dynamicCachedPages + pages }
  | .succeeded =>
      { tally with
        newSuccesses := tally.newSuccesses + 1
        newSuccessPages := tally.newSuccessPages + pages }
  | .failed failure =>
      { tally with failures := tally.failures ++ [failure] }

namespace CorpusParser

variable (parser : CorpusParser)

/-- `_snapshot`. -/
def snapshot (snapshotId : String) : Except PyException CorpusSnapshot :=
  match parser.snapshots.get? snapshotId with
  | some snapshot => .ok snapshot
  | none => .error (parseIntegrityError
      ("unknown corpus snapshot: " ++ snapshotId))

/-- The key of a document under the approved model. -/
def key (snapshotId : String) (mode : ParseMode) (document : DocumentRecord) :
    CheckpointKey :=
  { snapshotId := snapshotId
    sourceSha256 := document.sha256
    mode := mode
    providerModelId := parser.modelId
    providerModelVersion := parser.modelVersion }

/-- `_checkpoint_matches`. -/
def checkpointMatches (checkpoint : ParseCheckpoint)
    (document : DocumentRecord) : Bool :=
  checkpoint.sourceSha256 = document.sha256 ∧
    checkpoint.expectedPages = document.pageCount ∧
    checkpoint.providerModelId = parser.modelId ∧
    checkpoint.providerModelVersion = parser.modelVersion

/-- The price of a document with the tax buffer. -/
def documentCost (document : DocumentRecord) (mode : ParseMode) :
    Except PyException ℚ := do
  let context := parser.platform.context
  let base ← parser.priceBook.estimate context 0
    { operation := .parse
      modelId := parser.modelId
      billablePages := document.pageCount
      mode := mode.value }
  money context (context.fix (base * context.fix (1 + parser.vatBuffer)))

/-- `raw.get("elements", [])`, a list of dictionaries. -/
def providerElements (raw : JsonObject) :
    Except PyException (List JsonObject) :=
  let malformed :=
    parseIntegrityError "provider response elements are malformed"
  match (Json.get? raw "elements").getD (.array []) with
  | .array items => objects malformed items
  | _ => .error malformed

/-- `_normalize`. -/
def normalize (snapshot : CorpusSnapshot) (document : DocumentRecord)
    (mode : ParseMode) (response : ParsedDocument) (latencyMs : ℕ) :
    Except PyException ParseCheckpoint := do
  let raw := response.rawResponse
  if providerVersion raw ≠ some parser.modelVersion then
    throw (parseIntegrityError
      "provider model version differs from the approved plan")
  let elements ← providerElements raw
  let hasProviderPageCount ← validateProviderPageCount raw document.pageCount
  let (markdown, html) := contentFields raw
  if Json.get? raw "elements" = none ∧ hasProviderPageCount = false ∧
      markdown = "" ∧ html = "" then
    throw (parseIntegrityError
      "provider response contains no recognized parse evidence")
  let mappings ← pageMappings raw document.pageCount
  let cost ← parser.documentCost document mode
  let hash ← parser.platform.canonicalJsonHash (.object raw)
  return {
    snapshotId := snapshot.snapshotId
    documentId := document.documentId
    sourceSha256 := document.sha256
    expectedPages := document.pageCount
    providerModelId := parser.modelId
    providerModelVersion := parser.modelVersion
    mode := mode
    status := .succeeded
    rawResponse := some raw
    rawResponseHash := some hash
    markdown := markdown
    html := html
    elements := elements
    pageMappings := mappings
    latencyMs := latencyMs
    costUsd := cost
    correlationId := response.correlationId }

/-! ## Planning -/

/-- `resume and checkpoint and checkpoint.cache_integrity_ok`. -/
def usable (resume : Bool) : Option ParseCheckpoint →
    Except PyException Bool
  | some checkpoint =>
      if resume then checkpoint.cacheIntegrityOk parser.platform else .ok false
  | none => .ok false

/-- A document of the plan, and whether its checkpoint is corrupt. -/
def planDocument (snapshotId : String) (mode : ParseMode) (resume : Bool)
    (document : DocumentRecord) : CorpusM (PlannedDocument × Bool) := do
  let checkpoint ← await (CorpusOp.get (parser.key snapshotId mode document))
  let intact ← fromExcept (parser.usable resume checkpoint)
  let valid := intact && checkpoint.any (parser.checkpointMatches · document)
  let corrupt := resume &&
    checkpoint.any (fun found => found.status = .succeeded) && !valid
  let (size, mtime) ← await (CorpusOp.sourceMetadata document)
  return ({
    documentId := document.documentId
    sourceSha256 := document.sha256
    pages := document.pageCount
    cacheHit := valid
    sourceSize := size
    sourceMtimeNs := mtime }, corrupt)

def planDocuments (snapshotId : String) (mode : ParseMode) (resume : Bool) :
    List DocumentRecord → CorpusM (List (PlannedDocument × Bool))
  | [] => return []
  | document :: rest => do
      let planned ← parser.planDocument snapshotId mode resume document
      let others ← planDocuments snapshotId mode resume rest
      return planned :: others

/-- The checks of `_require_standard_parity` on one document. -/
def checkParity (document : DocumentRecord) :
    Option ParseCheckpoint → Except PyException Unit
  | none => .error (parseIntegrityError
      ("enhanced mode requires successful Standard source " ++
        document.documentId))
  | some standard => do
      let pages ← standard.pageMappings.mapM fun item =>
        ((Json.get? item "source_page").getD
          ((Json.get? item "page").getD (.int 0))).toInt
          parser.platform.parseInt
      let expected := pageRange document.pageCount
      if ¬((pages.all (· ∈ expected)) ∧ expected.all (· ∈ pages)) then
        throw (parseIntegrityError
          ("enhanced mode page set differs for " ++ document.documentId))
      if (← standard.cacheIntegrityOk parser.platform) = false then
        throw (parseIntegrityError
          ("enhanced mode requires intact Standard source " ++
            document.documentId))
      if parser.checkpointMatches standard document = false then
        throw (parseIntegrityError
          ("enhanced mode source hash/model differs for " ++
            document.documentId))

/-- `_require_standard_parity`. -/
def requireStandardParity (snapshotId : String) :
    List DocumentRecord → CorpusM Unit
  | [] => return ()
  | document :: rest => do
      let standard ←
        await (CorpusOp.get (parser.key snapshotId .standard document))
      fromExcept (parser.checkParity document standard)
      requireStandardParity snapshotId rest

/-- Only the enhanced mode depends on the standard one. -/
def requireParity (snapshot : CorpusSnapshot) : ParseMode → CorpusM Unit
  | .standard => return ()
  | .enhanced =>
      parser.requireStandardParity snapshot.snapshotId snapshot.documents

/-- `plan_corpus`. -/
def plan (snapshotId mode : String) (resume : Bool) : CorpusM ParsePlan := do
  let selected ← fromExcept (ParseMode.ofString mode)
  let snapshot ← fromExcept (parser.snapshot snapshotId)
  parser.requireParity snapshot selected
  let planned ←
    parser.planDocuments snapshotId selected resume snapshot.documents
  let settled ← await CorpusOp.settledCostUsd
  fromExcept (parser.planCorpus snapshotId selected (planned.map Prod.fst)
    (planned.countP fun entry => entry.2) settled)

/-! ## The round of a document -/

/-- The checkpoint of an attempt without a response. -/
def unpaidCheckpoint (snapshotId : String) (document : DocumentRecord)
    (mode : ParseMode) (error : PyException) (latencyMs : ℕ) :
    ParseCheckpoint :=
  { snapshotId := snapshotId
    documentId := document.documentId
    sourceSha256 := document.sha256
    expectedPages := document.pageCount
    providerModelId := parser.modelId
    providerModelVersion := parser.modelVersion
    mode := mode
    status := .failed
    rawResponse := none
    rawResponseHash := none
    markdown := (contentFields []).1
    html := (contentFields []).2
    elements := evidenceElements []
    pageMappings := []
    latencyMs := latencyMs
    costUsd := 0
    error := some (error.cls.name ++ ": " ++ error.message) }

/-- The checkpoint of an attempt which failed after its response. -/
def paidCheckpoint (snapshotId : String) (document : DocumentRecord)
    (mode : ParseMode) (response : ParsedDocument) (error : PyException)
    (latencyMs : ℕ) : Except PyException ParseCheckpoint := do
  let raw := response.rawResponse
  let hash ← parser.platform.canonicalJsonHash (.object raw)
  let mappings ← safePageMappings raw document.pageCount
  let cost ← parser.documentCost document mode
  return {
    parser.unpaidCheckpoint snapshotId document mode error latencyMs with
    providerModelVersion := (providerVersion raw).getD parser.modelVersion
    status := .reconciliationRequired
    rawResponse := some raw
    rawResponseHash := some hash
    markdown := (contentFields raw).1
    html := (contentFields raw).2
    elements := evidenceElements raw
    pageMappings := mappings
    costUsd := cost
    correlationId := response.correlationId }

/-- The `except` branch of the attempt. -/
def recordFailure (snapshotId : String) (document : DocumentRecord)
    (mode : ParseMode) (response : Option ParsedDocument)
    (error : PyException) : CorpusM ParseRound :=
  if error.isInstance .exception then do
    let latency ← await CorpusOp.elapsedMs
    let checkpoint ← fromExcept (match response with
      | none => .ok (parser.unpaidCheckpoint snapshotId document mode error
          latency)
      | some response => parser.paidCheckpoint snapshotId document mode
          response error latency)
    await (CorpusOp.put checkpoint)
    return .failed ⟨document.documentId, error.message⟩
  else throw error

/-- `_read_verified_source`. -/
def readVerifiedSource (document : DocumentRecord) : CorpusM Bytes := do
  let payload ← await (CorpusOp.readSource document)
  if parser.platform.sha256Hex payload ≠ document.sha256 then
    throw (parseIntegrityError
      "source bytes no longer match the approved manifest")
  return payload

def parseRequest (document : DocumentRecord) (mode : ParseMode)
    (content : Bytes) : ParseRequest :=
  { modelId := parser.modelId
    documentSha256 := document.sha256
    content := content
    billablePages := document.pageCount
    mode := mode.value }

/-- The part of the `try` up to the response. -/
def requestParse (document : DocumentRecord) (mode : ParseMode) :
    CorpusM ParsedDocument := do
  let content ← parser.readVerifiedSource document
  await (CorpusOp.parse (parser.parseRequest document mode content))

/-- The part of the `try` after the response. -/
def store (snapshot : CorpusSnapshot) (document : DocumentRecord)
    (mode : ParseMode) (response : ParsedDocument) : CorpusM Unit := do
  let latency ← await CorpusOp.elapsedMs
  let checkpoint ← fromExcept
    (parser.normalize snapshot document mode response latency)
  await (CorpusOp.put checkpoint)

/-- `snapshotId` is the name under which the snapshot was looked up. -/
def attempt (snapshotId : String) (snapshot : CorpusSnapshot)
    (document : DocumentRecord) (mode : ParseMode) : CorpusM ParseRound := do
  match ← (parser.requestParse document mode).attempt with
  | .error error => parser.recordFailure snapshotId document mode none error
  | .ok response =>
      match ← (parser.store snapshot document mode response).attempt with
      | .ok () => return .succeeded
      | .error error =>
          parser.recordFailure snapshotId document mode (some response) error

/-- The body of `singleflight`. -/
def parseDocument (snapshotId : String) (snapshot : CorpusSnapshot)
    (document : DocumentRecord) (mode : ParseMode) (resume : Bool) :
    CorpusM ParseRound := do
  let existing ← await (CorpusOp.get (parser.key snapshotId mode document))
  if ← fromExcept (parser.usable resume existing) then return .cached
  else parser.attempt snapshotId snapshot document mode

def flightIdentity (snapshotId : String) (document : DocumentRecord)
    (mode : ParseMode) : Except PyException String :=
  parser.platform.canonicalJsonHash (.array
    [.str snapshotId, .str document.sha256, .str mode.value,
      .str parser.modelId, .str parser.modelVersion])

/-- The round of a document that is not a cache hit of the plan. -/
def parsePlanned (snapshotId : String) (snapshot : CorpusSnapshot)
    (mode : ParseMode) (resume : Bool) (item : PlannedDocument) :
    CorpusM ParseRound := do
  let document ← fromExcept
    (match snapshot.documents.find? (·.sha256 = item.sourceSha256) with
    | some document => .ok document
    | none => .error (.keyError item.sourceSha256))
  let identity ← fromExcept
    (parser.flightIdentity snapshotId document mode)
  await (CorpusOp.enterSingleflight identity)
  (parser.parseDocument snapshotId snapshot document mode resume).finalizing
    (await (CorpusOp.exitSingleflight identity))

/-- The loop over the documents of the plan. -/
def parseDocuments (snapshotId : String) (snapshot : CorpusSnapshot)
    (mode : ParseMode) (resume : Bool) :
    List PlannedDocument → ParseTally → CorpusM ParseTally
  | [], tally => return tally
  | item :: rest, tally =>
      if item.cacheHit then
        parseDocuments snapshotId snapshot mode resume rest tally
      else do
        let round ← parser.parsePlanned snapshotId snapshot mode resume item
        parseDocuments snapshotId snapshot mode resume rest
          (tally.count item.pages round)

/-! ## The run -/

/-- The checks between the plan and its execution. -/
def authorize (plan : ParsePlan) : Except PyException Unit :=
  if parser.confirmedPlanHash ≠ some plan.planHash then
    .error (parseIntegrityError
      "paid execution requires the exact current plan hash")
  else if plan.postRunRemainingBudgetUsd ≤ 0 then
    .error (parseIntegrityError "planned parse reaches the hard budget limit")
  else .ok ()

def summarize (plan : ParsePlan) (tally : ParseTally) : ParseSummary :=
  let failedIds := tally.failures.map (·.documentId)
  { snapshotId := plan.snapshotId
    mode := plan.mode
    planHash := plan.planHash
    totalDocuments := plan.documents.length
    totalPages := (plan.documents.map (·.pages)).sum
    cacheHits := tally.dynamicCacheHits
    cachedSuccesses := tally.dynamicCacheHits
    cachedSuccessPages := tally.dynamicCachedPages
    newSuccesses := tally.newSuccesses
    succeededDocuments := tally.dynamicCacheHits + tally.newSuccesses
    succeededPages := tally.dynamicCachedPages + tally.newSuccessPages
    failedDocuments := tally.failures.length
    failedPages := ((plan.documents.filter fun item =>
      item.documentId ∈ failedIds).map (·.pages)).sum
    retriedCorruptCheckpoints := plan.corruptCheckpoints
    estimatedNewCostUsd := plan.baseCostUsd
    failures := tally.failures }

/-- `parse_corpus`. -/
def parseCorpus (snapshotId mode : String) (resume : Bool) :
    CorpusM ParseSummary := do
  let plan ← parser.plan snapshotId mode resume
  let now ← await CorpusOp.now
  fromExcept (parser.priceBook.verifyPaidBatch parser.verifiedAt now)
  fromExcept (parser.authorize plan)
  let snapshot ← fromExcept (parser.snapshot snapshotId)
  let cached := plan.documents.filter (·.cacheHit)
  let tally ← parser.parseDocuments snapshotId snapshot plan.mode resume
    plan.documents
    { dynamicCacheHits := cached.length
      dynamicCachedPages := (cached.map (·.pages)).sum }
  return summarize plan tally

/-! ## Reconciliation -/

/-- The response and its hash, where a paid response waits. -/
def owedResponse (found : Option ParseCheckpoint) :
    Except PyException (ParseCheckpoint × JsonObject × String) :=
  let missing := parseIntegrityError
    "no paid reconciliation checkpoint matches the approved model"
  match found with
  | none => .error missing
  | some checkpoint =>
      match checkpoint.status, checkpoint.rawResponse,
          checkpoint.rawResponseHash with
      | .reconciliationRequired, some raw, some hash =>
          .ok (checkpoint, raw, hash)
      | _, _, _ => .error missing

/-- `reconcile_paid_checkpoint`. -/
def reconcilePaidCheckpoint (snapshotId documentId mode : String) :
    CorpusM ParseCheckpoint := do
  let snapshot ← fromExcept (parser.snapshot snapshotId)
  let document ← fromExcept
    (match snapshot.documents.find? (·.documentId = documentId) with
    | some document => .ok document
    | none => .error (parseIntegrityError
        ("unknown corpus document: " ++ documentId)))
  let selected ← fromExcept (ParseMode.ofString mode)
  let found ← await
    (CorpusOp.get (parser.key snapshotId selected document))
  let (checkpoint, raw, hash) ← fromExcept (owedResponse found)
  let current ← fromExcept (parser.platform.canonicalJsonHash (.object raw))
  if current ≠ hash then
    throw (parseIntegrityError "paid reconciliation response hash is invalid")
  let reconciled ← fromExcept (parser.normalize snapshot document selected
    ⟨raw, checkpoint.correlationId⟩ checkpoint.latencyMs)
  if reconciled.costUsd ≠ checkpoint.costUsd then
    throw (parseIntegrityError
      "paid reconciliation cost differs from recorded evidence")
  await (CorpusOp.put reconciled)
  return reconciled

end CorpusParser

end RagBench
