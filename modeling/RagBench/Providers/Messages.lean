import RagBench.Core.Money
import RagBench.Decimal

/-!
# Provider requests, responses and their JSON bodies

The readers of provider JSON, and the merge of the parse responses of a split
document.  `Platform` collects what lies outside the repository: the decimal
context, string conversions, hashing and the PDF library.
-/

namespace RagBench

abbrev Bytes := List UInt8

/-- Instants in UTC, in microseconds. -/
abbrev Timestamp := ℤ

/-- A decoded JSON object. -/
abbrev JsonObject := List (String × Json)

/-- Conversions return `none` where Python raises its conversion error. -/
structure Platform where
  context : Decimal.Context
  /-- `int(text)`. -/
  parseInt : String → Option ℤ
  /-- `float(text)`. -/
  parseFloat : String → Option PyFloat
  /-- `float(number)` on integers. -/
  intToFloat : ℤ → Option PyFloat
  /-- A result without an offset is read as UTC. -/
  parsedateToDatetime : String → Except PyException Timestamp
  canonicalJsonHash : Json → Except PyException String
  sha256Hex : Bytes → String
  uuidText : Uuid → String
  pdfPageCount : Bytes → Except PyException ℕ
  /-- A document of the pages from the first index up to the second. -/
  pdfPages : Bytes → ℕ → ℕ → Except PyException Bytes
  isWordCharacter : Char → Bool
  isDigit : Char → Bool
  space_not_digit : isDigit ' ' = false
  /-- `unicodedata.normalize("NFKC", text)`. -/
  nfkc : String → String
  /-- `text.lower()`. -/
  lower : String → String
  /-- `SequenceMatcher(None, first, second).ratio()`. -/
  similarity : String → String → ℚ
  /-- `json.dumps` with sorted keys and no spaces. -/
  jsonDumps : Json → String
  /-- `len(encoding().encode(text))`. -/
  tokenCount : String → Except PyException ℕ
  /-- `format(value, "f")`. -/
  decimalText : ℚ → String
  /-- `str(Path(directory) / name)`. -/
  joinPath : String → String → String

/-- A platform for small examples: exact decimals, ASCII texts. -/
def samplePlatform : Platform :=
  { context := .exact (10 ^ 28)
    parseInt := fun _ => none
    parseFloat := fun _ => none
    intToFloat := fun value => some (.finite value)
    parsedateToDatetime := fun _ => .error (.valueError "invalid date")
    canonicalJsonHash := fun _ => .ok "hash"
    sha256Hex := fun _ => "hash"
    uuidText := fun id => toString id.value
    pdfPageCount := fun _ => .ok 1
    pdfPages := fun content _ _ => .ok content
    isWordCharacter := Char.isAlphanum
    isDigit := Char.isDigit
    space_not_digit := by decide
    nfkc := id
    lower := fun text => text.map Char.toLower
    similarity := fun first second => if first = second then 1 else 0
    jsonDumps := fun _ => "json"
    tokenCount := fun text => .ok text.length
    decimalText := fun value => toString value.num ++ "/" ++ toString value.den
    joinPath := fun directory name => directory ++ "/" ++ name }

structure GenerateRequest where
  modelId : String
  prompt : String
  context : List String := []
  providerParams : JsonObject := []
  inputTokens : ℤ := 0
  maxOutputTokens : Option ℤ := none

structure GenerateResponse where
  content : String
  rawResponse : JsonObject
  correlationId : Option String := none
  cacheHit : Option Bool := none

structure EmbedRequest where
  modelId : String
  texts : List String
  inputTokens : ℤ
  providerParams : JsonObject := []

structure EmbedResponse where
  embeddings : List (List PyFloat)
  rawResponse : JsonObject
  correlationId : Option String := none
  modelId : Option String := none

structure ParseRequest where
  modelId : String
  documentSha256 : String
  content : Bytes
  billablePages : ℤ
  mode : String := "standard"
  providerParams : JsonObject := []

structure ParsedDocument where
  rawResponse : JsonObject
  correlationId : Option String := none

structure HttpRequest where
  path : String
  correlationId : Uuid
  json : Option JsonObject := none
  data : Option JsonObject := none
  document : Option Bytes := none

/-- `json` is the outcome of `response.json()`. -/
structure HttpResponse where
  statusCode : ℕ
  retryAfter : Option String := none
  json : Except PyException Json

/-- `200 <= response.status_code < 300`. -/
def HttpResponse.accepted (response : HttpResponse) : Prop :=
  200 ≤ response.statusCode ∧ response.statusCode < 300

instance (response : HttpResponse) : Decidable response.accepted :=
  inferInstanceAs (Decidable (_ ∧ _))

/-- `ProviderHTTPError(RuntimeError)`. -/
def providerHttpErrorClass : ExceptionClass :=
  .derived "ProviderHTTPError" .runtimeError

def providerHttpError (statusCode : ℕ) : PyException :=
  ⟨providerHttpErrorClass,
    "provider request failed (status=" ++ toString statusCode ++ ")"⟩

/-- `httpx.RequestError(httpx.HTTPError)`. -/
def requestErrorClass : ExceptionClass :=
  .derived "RequestError" (.derived "HTTPError" .exception)

/-! ## Requests -/

/-- `_reject_reserved_params`; `reserved` is sorted. -/
def rejectReservedParams (params : JsonObject) (reserved : List String) :
    Except PyException Unit :=
  match reserved.filter fun key => key ∈ params.map Prod.fst with
  | [] => .ok ()
  | conflict :: _ =>
      .error (.valueError
        ("reserved provider parameter cannot be overridden: " ++ conflict))

/-- `{**base, **params}`. -/
def mergeParams (base params : JsonObject) : JsonObject :=
  params.foldl (fun merged entry => Dict.assign entry.1 entry.2 merged) base

structure CacheKeyParts where
  operation : String
  modelId : String
  providerParams : JsonObject
  promptHash : Option String
  contextHash : Option String
  documentSha256 : Option String
  schemaVersion : String := "provider-cache-v2"

def optionalText : Option String → Json
  | some text => .str text
  | none => .null

def CacheKeyParts.digest (platform : Platform) (parts : CacheKeyParts) :
    Except PyException String :=
  platform.canonicalJsonHash (.object
    [("operation", .str parts.operation),
      ("model_id", .str parts.modelId),
      ("provider_params", .object parts.providerParams),
      ("prompt_hash", optionalText parts.promptHash),
      ("context_hash", optionalText parts.contextHash),
      ("document_sha256", optionalText parts.documentSha256),
      ("schema_version", .str parts.schemaVersion)])

/-- `cache_key_for_generate`. -/
def cacheKeyForGenerate (platform : Platform) (request : GenerateRequest) :
    Except PyException String := do
  let promptHash ← platform.canonicalJsonHash (.str request.prompt)
  let contextHash ←
    platform.canonicalJsonHash (.array (request.context.map .str))
  CacheKeyParts.digest platform
    { operation := "generate"
      modelId := request.modelId
      providerParams := mergeParams request.providerParams
        [("max_output_tokens",
          (request.maxOutputTokens.map Json.int).getD .null)]
      promptHash := some promptHash
      contextHash := some contextHash
      documentSha256 := none }

def cacheKeyForEmbed (platform : Platform) (request : EmbedRequest) :
    Except PyException String := do
  let promptHash ←
    platform.canonicalJsonHash (.array (request.texts.map .str))
  CacheKeyParts.digest platform
    { operation := "embed"
      modelId := request.modelId
      providerParams := request.providerParams
      promptHash := some promptHash
      contextHash := none
      documentSha256 := none }

def parseParams (request : ParseRequest) : JsonObject :=
  mergeParams
    [("mode", .str request.mode),
      ("output_formats", .str "['html', 'markdown']")]
    request.providerParams

/-- `_parse_cache_key`. -/
def parseCacheKey (platform : Platform) (request : ParseRequest) :
    Except PyException String :=
  CacheKeyParts.digest platform
    { operation := "parse"
      modelId := request.modelId
      providerParams := parseParams request
      promptHash := none
      contextHash := none
      documentSha256 := some request.documentSha256 }

/-- `_max_sync_parse_pages`. -/
def maxSyncParsePages (mode : String) : ℕ :=
  if mode = "enhanced" then 10 else 100

/-- `_pdf_chunks`: start page, page count and content of each chunk. -/
def pdfChunks (platform : Platform) (request : ParseRequest)
    (maxPages : ℕ) : Except PyException (List (ℕ × ℕ × Bytes)) := do
  let pages ← platform.pdfPageCount request.content
  if (pages : ℤ) ≠ request.billablePages then
    throw (.valueError "PDF page count differs from declared billable pages")
  let starts := (List.range ((pages + maxPages - 1) / maxPages)).map
    (· * maxPages)
  starts.mapM fun start => do
    let finish := min (start + maxPages) pages
    let content ← platform.pdfPages request.content start finish
    return (start, finish - start, content)

/-! ## Responses -/

/-- `_decode_json`. -/
def decodeJson (response : HttpResponse) : Except PyException JsonObject := do
  match ← response.json with
  | .object raw => return raw
  | _ => throw (.valueError "provider JSON response must be an object")

/-- `_generation_response`. -/
def generationResponse (raw : JsonObject) :
    Except PyException GenerateResponse :=
  match Json.get? raw "choices" with
  | some (.array (first :: _)) =>
      match first with
      | .object choice =>
          match Json.get? choice "message" with
          | some (.object message) =>
              match Json.get? message "content" with
              | some (.str content) =>
                  .ok { content := content, rawResponse := raw }
              | _ => .error (.valueError
                  "provider response message is missing content")
          | _ => .error (.valueError "provider response is missing a message")
      | _ => .error (.valueError "provider response is missing a message")
  | _ => .error (.valueError "provider response is missing choices")

/-- `float(value)`. -/
def jsonToFloat (platform : Platform) : Json → Except PyException PyFloat
  | .float value => .ok value
  | .str text =>
      match platform.parseFloat text with
      | some value => .ok value
      | none => .error (.valueError "could not convert string to float")
  | value =>
      match value.asInt with
      | some number =>
          match platform.intToFloat number with
          | some result => .ok result
          | none =>
              .error (.overflowError "int too large to convert to float")
      | none => .error (.typeError ("float() argument must be a string or " ++
          "a real number, not '" ++ value.typeName ++ "'"))

/-- `_embedding_response`. -/
def embeddingResponse (platform : Platform) (raw : JsonObject) :
    Except PyException EmbedResponse := do
  match Json.get? raw "data" with
  | some (.array data) =>
      let vectors ← data.mapM fun item =>
        match item with
        | .object entries =>
            match Json.get? entries "embedding" with
            | some (.array values) => values.mapM (jsonToFloat platform)
            | _ => .error (.valueError
                "provider response contains invalid embedding data")
        | _ => .error (.valueError
            "provider response contains invalid embedding data")
      let modelId := match Json.get? raw "model" with
        | some (.str model) => some model
        | _ => none
      return { embeddings := vectors, rawResponse := raw, modelId := modelId }
  | _ => throw (.valueError "provider response is missing embedding data")

/-! ## The merge of parse chunks -/

/-- The longest run of digits, and what follows it. -/
def digitsOf (platform : Platform) : List Char → List Char × List Char
  | [] => ([], [])
  | first :: rest =>
      if platform.isDigit first then
        let (digits, tail) := digitsOf platform rest
        (first :: digits, tail)
      else ([], first :: rest)

/-- A match of `\bid=(['"])(\d+)\1` at the start: its quote and digits. -/
def matchIdAttribute (platform : Platform) (previous : Option Char)
    (text : List Char) : Option (Char × List Char) :=
  match text with
  | 'i' :: 'd' :: '=' :: quote :: rest =>
      let boundary := (previous.map platform.isWordCharacter).getD false
      let (digits, tail) := digitsOf platform rest
      if boundary = false ∧ (quote = '\'' ∨ quote = '"') ∧ digits ≠ [] ∧
          tail.head? = some quote then
        some (quote, digits)
      else none
  | _ => none

/-- `skip` characters belong to an attribute which is already rewritten. -/
def offsetHtmlIdsFrom (platform : Platform) (offset : ℤ) :
    Option Char → ℕ → List Char → Except PyException (List Char)
  | _, _, [] => .ok []
  | _, skip + 1, first :: rest =>
      offsetHtmlIdsFrom platform offset (some first) skip rest
  | previous, 0, first :: rest =>
      match matchIdAttribute platform previous (first :: rest) with
      | some (quote, digits) =>
          match platform.parseInt (String.ofList digits) with
          | some number => do
              let tail ← offsetHtmlIdsFrom platform offset (some first)
                (digits.length + 4) rest
              return ['i', 'd', '=', quote] ++
                (toString (number + offset)).toList ++ [quote] ++ tail
          | none =>
              .error (.valueError "invalid literal for int() with base 10")
      | none => do
          let tail ← offsetHtmlIdsFrom platform offset (some first) 0 rest
          return first :: tail

/-- `_offset_html_ids`. -/
def offsetHtmlIds (platform : Platform) (html : String) (offset : ℤ) :
    Except PyException String := do
  return String.ofList
    (← offsetHtmlIdsFrom platform offset none 0 html.toList)

/-- Page numbers of a chunk become page numbers of the document. -/
def shiftPages (start : ℤ) (item : JsonObject) : JsonObject :=
  ["page", "page_number", "source_page"].foldl (fun shifted key =>
    match (Json.get? shifted key).bind Json.asInt with
    | some page => Dict.assign key (.int (page + start)) shifted
    | none => shifted) item

def mergeElement (platform : Platform) (start idOffset : ℤ)
    (source : JsonObject) : Except PyException JsonObject := do
  let numbered ← match Json.get? source "id" with
    | none | some .null => .ok source
    | some value =>
        match value.asInt with
        | some oldId =>
            .ok (Dict.assign "id" (.int (oldId + idOffset)) source)
        | none =>
            .error (.valueError "parse chunk element ID is not numeric")
  let item := shiftPages start numbered
  match Json.get? item "content" with
  | some (.object content) =>
      match Json.get? content "html" with
      | some (.str html) =>
          let shifted ← offsetHtmlIds platform html idOffset
          return Dict.assign "content"
            (.object (Dict.assign "html" (.str shifted) content)) item
      | _ => return item
  | _ => return item

/-- The model all chunks agree on.  Lists and dictionaries have no hash. -/
def mergedModel (responses : List (ℕ × ℕ × ParsedDocument)) :
    Except PyException String :=
  let models : List Json := responses.map fun (_, _, response) =>
    (Json.get? response.rawResponse "model").getD .null
  let unhashable := models.find? fun model =>
    match model with
    | .array _ => true
    | .object _ => true
    | _ => false
  let inconsistent : PyException :=
    .valueError "parse chunks resolved to inconsistent provider models"
  match unhashable, models with
  | some model, _ =>
      .error (.typeError ("unhashable type: '" ++ model.typeName ++ "'"))
  | none, .str model :: rest =>
      let agreed := rest.all fun other =>
        match other with
        | .str name => name = model
        | _ => false
      if agreed = true ∧ model ≠ "" then .ok model else .error inconsistent
  | none, _ => .error inconsistent

structure MergeState where
  elements : List JsonObject := []
  pages : List JsonObject := []
  html : List String := []
  markdown : List String := []
  text : List String := []
  evidence : List Json := []
  nextElementId : ℤ := 0

def objects (malformed : PyException) (items : List Json) :
    Except PyException (List JsonObject) :=
  items.mapM fun item =>
    match item with
    | .object entries => .ok entries
    | _ => .error malformed

def contentPart (content : JsonObject) (key : String) : List String :=
  match Json.get? content key with
  | some (.str value) => if value = "" then [] else [value]
  | _ => []

/-- One round of the loop over the chunks. -/
def mergeChunk (platform : Platform) (state : MergeState)
    (chunk : ℕ × ℕ × ParsedDocument) : Except PyException MergeState := do
  let (start, pageCount, response) := chunk
  let raw := response.rawResponse
  let malformed : PyException := .valueError "parse chunk elements are malformed"
  let sources ← match Json.get? raw "elements" with
    | none => .ok []
    | some (.array items) => objects malformed items
    | some _ => .error malformed
  let merged ← sources.mapM (mergeElement platform start state.nextElementId)
  let elements := state.elements ++ merged
  let numericIds := elements.filterMap fun item =>
    (Json.get? item "id").bind Json.asInt
  let nextElementId := (numericIds.max?.map (· + 1)).getD state.nextElementId
  let pages ← match Json.get? raw "pages" with
    | some (.array items) =>
        objects (.valueError "parse chunk page metadata is malformed") items
    | _ => .ok []
  let content := match Json.get? raw "content" with
    | some (.object entries) => entries
    | _ => []
  let html ← (contentPart content "html").mapM fun value =>
    offsetHtmlIds platform value state.nextElementId
  let responseHash ← platform.canonicalJsonHash (.object raw)
  return {
    elements := elements
    pages := state.pages ++ pages.map (shiftPages start)
    html := state.html ++ html
    markdown := state.markdown ++ contentPart content "markdown"
    text := state.text ++ contentPart content "text"
    evidence := state.evidence ++
      [.object
        [("start_page", .int (start + 1)),
          ("end_page", .int (start + pageCount)),
          ("response_hash", .str responseHash),
          ("correlation_id", optionalText response.correlationId)]]
    nextElementId := nextElementId }

/-- `_merge_parse_chunks`. -/
def mergeParseChunks (platform : Platform)
    (responses : List (ℕ × ℕ × ParsedDocument)) (totalPages : ℤ) :
    Except PyException JsonObject := do
  let model ← mergedModel responses
  let state ← responses.foldlM (mergeChunk platform) {}
  let merged : JsonObject :=
    [("model", .str model),
      ("content", .object
        [("html", .str (String.intercalate "\n" state.html)),
          ("markdown", .str (String.intercalate "\n\n" state.markdown)),
          ("text", .str (String.intercalate "\n" state.text))]),
      ("elements", .array (state.elements.map .object)),
      ("usage", .object [("pages", .int totalPages)]),
      ("chunk_evidence", .array state.evidence)]
  return if state.pages = [] then merged
    else merged ++ [("pages", .array (state.pages.map .object))]

end RagBench
