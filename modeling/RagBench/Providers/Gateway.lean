import RagBench.Program
import RagBench.Providers.Pricing

/-!
# The Upstage gateway

Each gateway call is a program over the awaited operations: the response
cache, the budget repository, HTTP and the clock.  Code between two awaits runs
without interruption, so it is a plain function with an `Except` result.
-/

namespace RagBench

structure CachedResponse where
  response : JsonObject

/-- Everything a gateway call awaits, or reads from its environment.  `post`
includes waiting for the concurrency semaphore. -/
inductive GatewayOp where
  | cacheGet (key : String)
  | cachePut (key : String) (operation : Operation) (modelId : String)
      (response : JsonObject)
  | enterSingleflight (key : String)
  | exitSingleflight (key : String)
  | uuid4
  | now
  | jitter (upper : PyFloat)
  | sleep (seconds : PyFloat)
  | post (request : HttpRequest)
  | reserveAtomic (correlationId : Uuid) (projectedCost hardLimit : ℚ)
  | settle (reservationId : Uuid) (operation : Operation) (modelId : String)
      (usage : Usage) (cacheHit reconciliationRequired : Bool)
  | release (reservationId : Uuid)
  | recordCacheHit (correlationId : Uuid) (operation : Operation)
      (modelId : String) (usage : Usage)

/-- What the awaited operation returns. -/
abbrev GatewayReply : GatewayOp → Type
  | .cacheGet _ => Option CachedResponse
  | .cachePut _ _ _ _ => Unit
  | .enterSingleflight _ => Unit
  | .exitSingleflight _ => Unit
  | .uuid4 => Uuid
  | .now => Timestamp
  | .jitter _ => PyFloat
  | .sleep _ => Unit
  | .post _ => HttpResponse
  | .reserveAtomic _ _ _ => Reservation
  | .settle _ _ _ _ _ _ => Unit
  | .release _ => Unit
  | .recordCacheHit _ _ _ _ => Unit

abbrev GatewayM := Program GatewayOp GatewayReply PyException

open Program (await fromExcept)

namespace GatewayM

abbrev cacheGet (key : String) : GatewayM (Option CachedResponse) :=
  await (GatewayOp.cacheGet key)

abbrev cachePut (key : String) (operation : Operation) (modelId : String)
    (response : JsonObject) : GatewayM Unit :=
  await (GatewayOp.cachePut key operation modelId response)

abbrev enterSingleflight (key : String) : GatewayM Unit :=
  await (GatewayOp.enterSingleflight key)

abbrev exitSingleflight (key : String) : GatewayM Unit :=
  await (GatewayOp.exitSingleflight key)

abbrev uuid4 : GatewayM Uuid :=
  await GatewayOp.uuid4

abbrev now : GatewayM Timestamp :=
  await GatewayOp.now

abbrev jitter (upper : PyFloat) : GatewayM PyFloat :=
  await (GatewayOp.jitter upper)

abbrev sleep (seconds : PyFloat) : GatewayM Unit :=
  await (GatewayOp.sleep seconds)

abbrev post (request : HttpRequest) : GatewayM HttpResponse :=
  await (GatewayOp.post request)

abbrev reserveAtomic (correlationId : Uuid) (projectedCost hardLimit : ℚ) :
    GatewayM Reservation :=
  await (GatewayOp.reserveAtomic correlationId projectedCost hardLimit)

abbrev settle (reservationId : Uuid) (operation : Operation)
    (modelId : String) (usage : Usage)
    (cacheHit reconciliationRequired : Bool) : GatewayM Unit :=
  await (GatewayOp.settle reservationId operation modelId usage cacheHit
    reconciliationRequired)

abbrev release (reservationId : Uuid) : GatewayM Unit :=
  await (GatewayOp.release reservationId)

abbrev recordCacheHit (correlationId : Uuid) (operation : Operation)
    (modelId : String) (usage : Usage) : GatewayM Unit :=
  await (GatewayOp.recordCacheHit correlationId operation modelId usage)

end GatewayM

open GatewayM

structure UpstageGateway where
  platform : Platform
  priceBook : PriceBook
  /-- The limit of the budget guard. -/
  hardLimit : ℚ
  billingCostMultiplier : ℚ
  multiplierAtLeastOne : 1 ≤ billingCostMultiplier
  maxRetries : ℕ
  maxBackoffSeconds : PyFloat

namespace UpstageGateway

variable (gateway : UpstageGateway)

/-! ## Prices and usage -/

/-- `_gross`. -/
def gross (net : ℚ) : Except PyException ℚ :=
  quantizeMoney gateway.platform.context .halfEven
    (gateway.platform.context.fix (net * gateway.billingCostMultiplier))

/-- The price of a request with the billing multiplier. -/
def grossEstimate (now : Timestamp) (request : PricingRequest) :
    Except PyException ℚ := do
  gateway.gross
    (← gateway.priceBook.estimate gateway.platform.context now request)

/-- Only embedding prices read the clock. -/
def generatePrice (modelId : String) (inputTokens outputTokens : ℤ) :
    Except PyException ℚ :=
  gateway.grossEstimate 0
    { operation := .generate
      modelId := modelId
      inputTokens := inputTokens
      outputTokens := outputTokens }

def parsePrice (modelId mode : String) (billablePages : ℤ) :
    Except PyException ℚ :=
  gateway.grossEstimate 0
    { operation := .parse
      modelId := modelId
      billablePages := billablePages
      mode := mode }

def embedPrice (now : Timestamp) (modelId : String) (inputTokens : ℤ) :
    Except PyException ℚ :=
  gateway.grossEstimate now
    { operation := .embed
      modelId := modelId
      inputTokens := inputTokens }

/-- `raw.get("usage", {})`, read as empty unless it is a dictionary. -/
def rawUsage (raw : JsonObject) : JsonObject :=
  match Json.get? raw "usage" with
  | some (.object usage) => usage
  | _ => []

/-- `raw_usage.get("prompt_tokens", request.input_tokens)`. -/
def promptTokens (request : GenerateRequest) (raw : JsonObject) : Json :=
  (Json.get? (rawUsage raw) "prompt_tokens").getD (.int request.inputTokens)

/-- `raw_usage.get("completion_tokens", request.max_output_tokens or 0)`. -/
def completionTokens (request : GenerateRequest) (raw : JsonObject) : Json :=
  (Json.get? (rawUsage raw) "completion_tokens").getD
    (.int (request.maxOutputTokens.getD 0))

/-- `_generation_usage`. -/
def generationUsage (request : GenerateRequest) (raw : JsonObject) :
    Except PyException Usage := do
  let inputTokens ←
    (promptTokens request raw).toInt gateway.platform.parseInt
  let outputTokens ←
    (completionTokens request raw).toInt gateway.platform.parseInt
  let cost ← gateway.generatePrice request.modelId inputTokens outputTokens
  return ⟨inputTokens, outputTokens, 0, cost⟩

/-- `_safe_generation_usage`. -/
def safeGenerationUsage (request : GenerateRequest)
    (raw : Option JsonObject) (fallback : Usage) : Except PyException Usage :=
  match raw with
  | none => .ok fallback
  | some raw =>
      match gateway.generationUsage request raw with
      | .ok usage => .ok usage
      | .error error =>
          if error.isInstance .typeError = true ∨
              error.isInstance .valueError = true then .ok fallback
          else .error error

/-! ## Requests with retries -/

/-- `_retry_after_seconds`. -/
def retryAfterSeconds (value : String) : GatewayM (Option PyFloat) :=
  match gateway.platform.parseFloat value with
  | some delay => return some delay
  | none =>
      match gateway.platform.parsedateToDatetime value with
      | .ok parsed => do
          let now ← now
          return some (PyFloat.max (.finite 0)
            (.finite (((parsed - now : ℤ) : ℚ) / 1000000)))
      | .error error =>
          if error.isInstance .typeError = true ∨
              error.isInstance .valueError = true then return none
          else throw error

/-- `2.0 ** attempt`. -/
def powerOfTwo (attempt : ℕ) : Except PyException PyFloat :=
  if attempt < 1024 then .ok (.finite (2 ^ attempt))
  else .error (.overflowError "(34, 'Numerical result out of range')")

/-- The jittered exponential delay of `_backoff`. -/
def exponentialBackoff (attempt : ℕ) : GatewayM PyFloat := do
  let power ← fromExcept (powerOfTwo attempt)
  let upperBound := PyFloat.min gateway.maxBackoffSeconds power
  let delay ← jitter upperBound
  return PyFloat.min gateway.maxBackoffSeconds (PyFloat.max (.finite 0) delay)

/-- `_backoff`. -/
def backoff (attempt : ℕ) (retryAfter : Option String) : GatewayM PyFloat :=
  match retryAfter with
  | none => gateway.exponentialBackoff attempt
  | some header => do
      match ← gateway.retryAfterSeconds header with
      | some delay =>
          return PyFloat.min gateway.maxBackoffSeconds
            (PyFloat.max (.finite 0) delay)
      | none => gateway.exponentialBackoff attempt

/-- The loop of `_request`, from `attempt` on. -/
def requestFrom (request : HttpRequest) (retryLimit : ℕ) :
    ℕ → ℕ → GatewayM HttpResponse
  | _, 0 => throw (.runtimeError "unreachable retry state")
  | attempt, remaining + 1 => do
      match ← (post request).attempt with
      | .error error =>
          if error.isInstance requestErrorClass = true ∧
              attempt < retryLimit then do
            let delay ← gateway.backoff attempt none
            sleep delay
            requestFrom request retryLimit (attempt + 1) remaining
          else throw error
      | .ok response =>
          if response.accepted then return response
          else if response.statusCode ≠ 429 ∧ response.statusCode < 500 then
            throw (providerHttpError response.statusCode)
          else if attempt ≥ retryLimit then
            throw (providerHttpError response.statusCode)
          else do
            let delay ← gateway.backoff attempt response.retryAfter
            sleep delay
            requestFrom request retryLimit (attempt + 1) remaining

/-- `_request`. -/
def request (request : HttpRequest) (maxRetries : Option ℕ) :
    GatewayM HttpResponse :=
  let retryLimit := maxRetries.getD gateway.maxRetries
  gateway.requestFrom request retryLimit 0 (retryLimit + 1)

/-! ## Budget steps -/

/-- `_reserve`, with the check of `BudgetGuard.reserve`. -/
def reserve (projected : ℚ) : GatewayM (Uuid × Reservation) := do
  let correlationId ← uuid4
  if projected < 0 then
    throw (.valueError "projected_cost cannot be negative")
  let reservation ←
    reserveAtomic correlationId projected gateway.hardLimit
  return (correlationId, reservation)

/-- `_record_cache_hit`, with the check of `BudgetGuard.record_cache_hit`. -/
def recordCacheHit (operation : Operation) (modelId : String)
    (usage : Usage) : GatewayM String := do
  let correlationId ← uuid4
  fromExcept (requireZeroCostCacheHit usage)
  GatewayM.recordCacheHit correlationId operation modelId usage
  return gateway.platform.uuidText correlationId

/-- The request of a reserved call; any failure releases the reservation. -/
def requestReserved (reservation : Reservation) (http : HttpRequest)
    (maxRetries : Option ℕ) : GatewayM HttpResponse :=
  tryCatch (gateway.request http maxRetries) fun error => do
    release reservation.id
    throw error

/-- `async with self._store.singleflight(key): body`. -/
def withSingleflight {α : Type} (key : String) (body : GatewayM α) :
    GatewayM α := do
  enterSingleflight key
  body.finalizing (exitSingleflight key)

/-! ## Generation -/

def cachedGeneration (request : GenerateRequest) (cached : CachedResponse) :
    GatewayM GenerateResponse := do
  let result ← fromExcept (generationResponse cached.response)
  let usage ← fromExcept (gateway.generationUsage request cached.response)
  let correlationId ← gateway.recordCacheHit .generate request.modelId
    ⟨usage.inputTokens, usage.outputTokens, 0, 0⟩
  return { result with
    correlationId := some correlationId
    cacheHit := some true }

/-- The second `try` of `generate`: `raw` as it stands where the body ends,
and how the body ends. -/
def readGeneration (request : GenerateRequest) (response : HttpResponse) :
    Option JsonObject ×
      Except PyException (JsonObject × GenerateResponse × Usage) :=
  match decodeJson response with
  | .error error => (none, .error error)
  | .ok raw =>
      (some raw, do
        let result ← generationResponse raw
        let usage ← gateway.generationUsage request raw
        return (raw, result, usage))

def generatePayload (request : GenerateRequest) (maxOutputTokens : ℤ) :
    JsonObject :=
  mergeParams
    [("model", .str request.modelId),
      ("messages", .array [.object
        [("role", .str "user"),
          ("content", .str (String.intercalate "\n\n"
            (request.context ++ [request.prompt])))]]),
      ("max_tokens", .int maxOutputTokens)]
    request.providerParams

/-- `generate` behind the cache lookups. -/
def generateUncached (request : GenerateRequest) (maxOutputTokens : ℤ)
    (key : String) : GatewayM GenerateResponse := do
  let projected ← fromExcept (gateway.generatePrice request.modelId
    request.inputTokens maxOutputTokens)
  let (correlationId, reservation) ← gateway.reserve projected
  let response ← gateway.requestReserved reservation
    { path := "chat/completions"
      correlationId := correlationId
      json := some (generatePayload request maxOutputTokens) } none
  let projectedUsage : Usage :=
    ⟨request.inputTokens, maxOutputTokens, 0, projected⟩
  match gateway.readGeneration request response with
  | (raw, .error error) => do
      let usage ←
        fromExcept (gateway.safeGenerationUsage request raw projectedUsage)
      settle reservation.id .generate request.modelId usage false true
      throw error
  | (_, .ok (raw, result, usage)) => do
      settle reservation.id .generate request.modelId usage false
        false
      cachePut key .generate request.modelId raw
      return { result with
        correlationId := some (gateway.platform.uuidText correlationId)
        cacheHit := some false }

/-- The checks of `generate`; the result is `request.max_output_tokens`. -/
def checkedOutputBound (request : GenerateRequest) : Except PyException ℤ :=
  match request.maxOutputTokens with
  | none => .error (.valueError
      "max_output_tokens is required to calculate an upper bound")
  | some maxOutputTokens =>
      if maxOutputTokens ≤ 0 then
        .error (.valueError "max_output_tokens must be positive")
      else if request.inputTokens ≤ 0 then
        .error (.valueError
          "input_tokens must be a positive conservative upper bound")
      else do
        rejectReservedParams request.providerParams
          ["max_tokens", "messages", "model"]
        return maxOutputTokens

def generate (request : GenerateRequest) : GatewayM GenerateResponse := do
  let maxOutputTokens ← fromExcept (checkedOutputBound request)
  let key ← fromExcept (cacheKeyForGenerate gateway.platform request)
  match ← cacheGet key with
  | some cached => gateway.cachedGeneration request cached
  | none =>
      withSingleflight key do
        match ← cacheGet key with
        | some cached => gateway.cachedGeneration request cached
        | none => gateway.generateUncached request maxOutputTokens key

/-! ## Embedding -/

/-- `result.model_id or request.model_id`. -/
def responseModel (result : EmbedResponse) (request : EmbedRequest) : String :=
  match result.modelId with
  | none => request.modelId
  | some modelId => if modelId = "" then request.modelId else modelId

def cachedEmbedding (request : EmbedRequest) (cached : CachedResponse) :
    GatewayM EmbedResponse := do
  let result ← fromExcept (embeddingResponse gateway.platform cached.response)
  let correlationId ← gateway.recordCacheHit .embed request.modelId
    ⟨request.inputTokens, 0, 0, 0⟩
  return { result with
    correlationId := some correlationId
    modelId := some (responseModel result request) }

def embedPayload (request : EmbedRequest) : JsonObject :=
  mergeParams
    [("model", .str request.modelId),
      ("input", .array (request.texts.map .str))]
    request.providerParams

/-- The second `try` of `embed`. -/
def readEmbedding (response : HttpResponse) :
    Except PyException (JsonObject × EmbedResponse) := do
  let raw ← decodeJson response
  let result ← embeddingResponse gateway.platform raw
  return (raw, result)

def embedUncached (request : EmbedRequest) (projected : ℚ) (key : String) :
    GatewayM EmbedResponse := do
  let (correlationId, reservation) ← gateway.reserve projected
  let response ← gateway.requestReserved reservation
    { path := "embeddings"
      correlationId := correlationId
      json := some (embedPayload request) } none
  let usage : Usage := ⟨request.inputTokens, 0, 0, projected⟩
  match gateway.readEmbedding response with
  | .error error => do
      settle reservation.id .embed request.modelId usage false true
      throw error
  | .ok (raw, result) => do
      settle reservation.id .embed request.modelId usage false false
      cachePut key .embed request.modelId raw
      return { result with
        correlationId := some (gateway.platform.uuidText correlationId)
        modelId := some (responseModel result request) }

def embed (request : EmbedRequest) : GatewayM EmbedResponse := do
  fromExcept (rejectReservedParams request.providerParams ["input", "model"])
  let key ← fromExcept (cacheKeyForEmbed gateway.platform request)
  let now ← now
  let projected ← fromExcept
    (gateway.embedPrice now request.modelId request.inputTokens)
  match ← cacheGet key with
  | some cached => gateway.cachedEmbedding request cached
  | none =>
      withSingleflight key do
        match ← cacheGet key with
        | some cached => gateway.cachedEmbedding request cached
        | none => gateway.embedUncached request projected key

/-! ## Parsing -/

def cachedParse (request : ParseRequest) (cached : CachedResponse) :
    GatewayM ParsedDocument := do
  let correlationId ← gateway.recordCacheHit .parse request.modelId
    ⟨0, 0, request.billablePages, 0⟩
  return { rawResponse := cached.response
           correlationId := some correlationId }

def parseUncached (request : ParseRequest) (projected : ℚ) (key : String) :
    GatewayM ParsedDocument := do
  let (correlationId, reservation) ← gateway.reserve projected
  let response ← gateway.requestReserved reservation
    { path := "document-digitization"
      correlationId := correlationId
      data := some (mergeParams [("model", .str request.modelId)]
        (parseParams request))
      document := some request.content } (some 0)
  let usage : Usage := ⟨0, 0, request.billablePages, projected⟩
  match decodeJson response with
  | .error error => do
      settle reservation.id .parse request.modelId usage false true
      throw error
  | .ok raw => do
      settle reservation.id .parse request.modelId usage false false
      cachePut key .parse request.modelId raw
      return { rawResponse := raw
               correlationId :=
                some (gateway.platform.uuidText correlationId) }

/-- `parse` on a document which fits into one request. -/
def parseSingle (request : ParseRequest) : GatewayM ParsedDocument := do
  fromExcept (rejectReservedParams request.providerParams
    ["document", "mode", "model", "output_formats"])
  let key ← fromExcept (parseCacheKey gateway.platform request)
  let projected ← fromExcept
    (gateway.parsePrice request.modelId request.mode request.billablePages)
  match ← cacheGet key with
  | some cached => gateway.cachedParse request cached
  | none =>
      withSingleflight key do
        match ← cacheGet key with
        | some cached => gateway.cachedParse request cached
        | none => gateway.parseUncached request projected key

/-- The request for one chunk of a document. -/
def chunkRequest (request : ParseRequest) (pages : ℕ) (content : Bytes) :
    ParseRequest :=
  { request with
    documentSha256 := gateway.platform.sha256Hex content
    content := content
    billablePages := pages }

/-- The chunks one by one, shifted by the first page. -/
def parseChunks (request : ParseRequest) (first : ℕ) :
    List (ℕ × ℕ × Bytes) → GatewayM (List (ℕ × ℕ × ParsedDocument))
  | [] => return []
  | (start, pages, content) :: rest => do
      let response ←
        gateway.parseSingle (gateway.chunkRequest request pages content)
      let responses ← parseChunks request first rest
      return (first + start, pages, response) :: responses

/-- One chunk of a large document; an enhanced chunk which is not cached is
split into its pages. -/
def parseLargeChunk (request : ParseRequest)
    (chunk : ℕ × ℕ × Bytes) : GatewayM (List (ℕ × ℕ × ParsedDocument)) := do
  let (start, pages, content) := chunk
  let whole := gateway.chunkRequest request pages content
  if request.mode = "enhanced" ∧ pages > 1 then
    let key ← fromExcept (parseCacheKey gateway.platform whole)
    match ← cacheGet key with
    | none => do
        let singles ← fromExcept (pdfChunks gateway.platform whole 1)
        gateway.parseChunks request start singles
    | some _ => gateway.parseChunks request 0 [chunk]
  else gateway.parseChunks request 0 [chunk]

def parseLargeChunks (request : ParseRequest) :
    List (ℕ × ℕ × Bytes) → GatewayM (List (ℕ × ℕ × ParsedDocument))
  | [] => return []
  | chunk :: rest => do
      let responses ← gateway.parseLargeChunk request chunk
      return responses ++ (← parseLargeChunks request rest)

/-- `_parse_large_document`.  No chunk is large itself, so the calls of
`parse` for the chunks are calls of `parseSingle`. -/
def parseLargeDocument (request : ParseRequest) (maxPages : ℕ) :
    GatewayM ParsedDocument := do
  let chunks ← fromExcept (pdfChunks gateway.platform request maxPages)
  let responses ← gateway.parseLargeChunks request chunks
  let raw ← fromExcept
    (mergeParseChunks gateway.platform responses request.billablePages)
  let correlationIds := responses.filterMap fun (_, _, response) =>
    response.correlationId
  return { rawResponse := raw
           correlationId := correlationIds.getLast? }

def parse (request : ParseRequest) : GatewayM ParsedDocument :=
  let maxPages := maxSyncParsePages request.mode
  if request.billablePages > maxPages then
    gateway.parseLargeDocument request maxPages
  else gateway.parseSingle request

end UpstageGateway

inductive GatewayCall where
  | generate (request : GenerateRequest)
  | embed (request : EmbedRequest)
  | parse (request : ParseRequest)

inductive GatewayResult where
  | generated (response : GenerateResponse)
  | embedded (response : EmbedResponse)
  | parsed (document : ParsedDocument)

/-- The program of a gateway call. -/
def UpstageGateway.call (gateway : UpstageGateway) :
    GatewayCall → GatewayM GatewayResult
  | .generate request => do
      return .generated (← gateway.generate request)
  | .embed request => do
      return .embedded (← gateway.embed request)
  | .parse request => do
      return .parsed (← gateway.parse request)

/-- A gateway for small examples. -/
def sampleGateway : UpstageGateway :=
  { platform := samplePlatform
    priceBook :=
      { models := .ofList
          [("solar",
            { modes := none
              generation := some ⟨some 100, some 200⟩
              embedding := none })] }
    hardLimit := 1
    billingCostMultiplier := 11 / 10
    multiplierAtLeastOne := by norm_num
    maxRetries := 0
    maxBackoffSeconds := .finite 8 }

end RagBench
