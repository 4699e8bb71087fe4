import RagBench.Benchmark.BatchRecords
import RagBench.Execution
import RagBench.Words

/-!
# Generated batches and their checkpoints

A batch of a plan is paid for once: the candidates of the provider are checked
against the plan, stored in a file of their own and read from it afterwards.
-/

namespace RagBench

/-! ## Validators -/

section Validators

variable (platform : Platform)

/-- `_normalize_answer`. -/
def CandidateRecord.normalizeAnswer (value : String) : Option String :=
  let normalized := " ".intercalate (splitWords (platform.nfkc value))
  if normalized = "" then none else some normalized

/-- `_fact_tokens`. -/
def factTokens (value : String) : List String :=
  (((platform.lower (platform.nfkc value)).toList.splitOnP
    fun character => !isSearchCharacter character).filter (· ≠ [])).map
      String.ofList

/-- `_single_value_substitution`, or `none` where it raises. -/
def singleValueSubstitution (original transformed : String) :
    Option (String × String) :=
  let originalTokens := factTokens platform original
  let transformedTokens := factTokens platform transformed
  if originalTokens.length ≠ transformedTokens.length ∨
      originalTokens.length < 2 then none
  else
    match (originalTokens.zip transformedTokens).filter
        fun pair => pair.1 ≠ pair.2 with
    | [difference] => some difference
    | _ => none

def EvidenceSpan.isValid (span : EvidenceSpan) : Bool :=
  strip span.text ≠ "" ∧ strip span.documentId ≠ "" ∧ 0 < span.page ∧
    strip span.chunkId ≠ ""

/-- The constraints of the fields and `_facts_must_differ`. -/
def TransformRecord.isValid (transform : TransformRecord) : Bool :=
  transform.targetDocumentId ≠ "" ∧ 0 < transform.targetPage ∧
    transform.targetChunkId ≠ "" ∧ transform.originalFact ≠ "" ∧
    transform.transformedFact ≠ "" ∧ transform.originalValue ≠ "" ∧
    transform.transformedValue ≠ "" ∧ transform.operation ≠ "" ∧
    searchText platform transform.originalFact ≠
      searchText platform transform.transformedFact ∧
    singleValueSubstitution platform transform.originalFact
      transform.transformedFact =
        some (transform.originalValue, transform.transformedValue)

def GeneratorMetadata.isValid (generator : GeneratorMetadata) : Bool :=
  generator.modelId ≠ "" ∧ generator.promptVersion ≠ "" ∧
    isHexDigest generator.planHash ∧ generator.batchId ≠ "" ∧
    isHexDigest generator.sourceWindowHash ∧ generator.reasoningKind ≠ ""

/-- `_decision_matches_rules`. -/
def ValidationStatus.isValid (status : ValidationStatus) : Bool :=
  (status.decision = .accepted → status.ruleCodes = []) ∧
    (status.decision = .rejected → status.ruleCodes ≠ [])

/-- `_answerability_shape`. -/
def CandidateRecord.hasShape (candidate : CandidateRecord) : Bool :=
  if candidate.answerable then
    candidate.questionType ≠ .unanswerable ∧ candidate.goldAnswer ≠ none ∧
      candidate.evidenceSpans ≠ [] ∧ candidate.assertedAbsentFacts = [] ∧
      candidate.unanswerableTransform = none
  else
    candidate.questionType = .unanswerable ∧ candidate.goldAnswer = none ∧
      candidate.evidenceSpans = [] ∧
      candidate.unanswerableTransform.any fun transform =>
        candidate.assertedAbsentFacts = [transform.transformedFact]

/-- What the field validators store. -/
def CandidateRecord.normalized (candidate : CandidateRecord) :
    CandidateRecord :=
  { candidate with
    candidateId := strip candidate.candidateId
    question := strip candidate.question
    goldAnswer := candidate.goldAnswer.bind
      (CandidateRecord.normalizeAnswer platform) }

/-- The validators of a normalized candidate. -/
def CandidateRecord.isValid (candidate : CandidateRecord) : Bool :=
  candidate.candidateId ≠ "" ∧ candidate.question ≠ "" ∧
    candidate.evidenceSpans.all EvidenceSpan.isValid ∧
    (candidate.assertedAbsentFacts.all fun fact => strip fact ≠ "") ∧
    candidate.unanswerableTransform.all (TransformRecord.isValid platform) ∧
    candidate.generator.isValid ∧ candidate.validation.isValid ∧
    candidate.hasShape

/-- `QuestionCandidate(**fields)`. -/
def CandidateRecord.validate (candidate : CandidateRecord) :
    Option CandidateRecord :=
  let candidate := candidate.normalized platform
  if candidate.isValid platform then some candidate else none

end Validators

/-! ## Source windows -/

section Windows

variable (platform : Platform)

/-- The text occurs in a unit of the window at that place. -/
def occursAt (window : SourceWindow) (page : ℕ) (chunkId text : String) :
    Bool :=
  (window.sourceUnits.filter fun unit =>
    unit.page = page ∧ unit.chunkId = chunkId).any fun unit =>
      occursIn (searchText platform text) (searchText platform unit.content)

/-- `_validate_candidate_window`. -/
def validateCandidateWindow (candidate : CandidateRecord)
    (window : SourceWindow) : Except PyException Unit := do
  raiseIf (candidate.unanswerableTransform.any fun transform =>
      transform.targetDocumentId ≠ window.documentId ∨
        occursAt platform window transform.targetPage transform.targetChunkId
          transform.originalFact = false ∨
        occursIn (searchText platform transform.transformedFact)
          (searchText platform window.content) = true)
    (.valueError "candidate transform is outside the assigned source window")
  candidate.evidenceSpans.forM fun span =>
    raiseIf (span.documentId ≠ window.documentId ∨
        occursAt platform window span.page span.chunkId span.text = false)
      (.valueError
        "candidate evidence is outside the assigned source window")

/-- What the id of a candidate is the hash of. -/
def candidateIdentity (plan : GenerationPlan) (job : GenerationJob) : Json :=
  .object
    [("plan_hash", .str plan.planHash), ("job_ordinal", .int job.ordinal)]

def provenanceError : PyException :=
  .runtimeError "checkpoint does not match current plan provenance"

/-- The loop body of `_validate_resumed_candidates`. -/
def validateResumedCandidate (plan : GenerationPlan) (batch : GenerationBatch)
    (candidate : CandidateRecord) (job : GenerationJob) :
    Except PyException Unit := do
  let expectedId ← platform.canonicalJsonHash (candidateIdentity plan job)
  let expectedWindowHash ← platform.canonicalJsonHash job.window.dump
  raiseIf (candidate.candidateId ≠ expectedId ∨
      candidate.questionType ≠ job.questionType ∨
      candidate.generator.planHash ≠ plan.planHash ∨
      candidate.generator.batchId ≠ batch.batchId ∨
      candidate.generator.sourceWindowHash ≠ expectedWindowHash ∨
      candidate.generator.modelId ≠ plan.modelId ∨
      candidate.generator.promptVersion ≠ plan.promptVersion)
    provenanceError
  match validateCandidateWindow platform candidate job.window with
  | .error _ => .error provenanceError
  | .ok () => .ok ()

/-- `_validate_resumed_candidates`. -/
def validateResumedCandidates (plan : GenerationPlan)
    (batch : GenerationBatch) (candidates : List CandidateRecord) :
    Except PyException Unit := do
  raiseIf (candidates.length ≠ batch.jobs.length) provenanceError
  (candidates.zip batch.jobs).forM fun pair =>
    validateResumedCandidate platform plan batch pair.1 pair.2

end Windows

/-! ## Checkpoints -/

structure StoredBatch where
  planHash : String
  batchId : String
  candidates : List CandidateRecord
  payloadHash : String
  deriving DecidableEq

def StoredBatch.entries (batch : StoredBatch) : List (String × Json) :=
  [("batch_id", .str batch.batchId),
    ("candidates", .array (batch.candidates.map fun candidate =>
      .object candidate.entries)),
    ("payload_hash", .str batch.payloadHash),
    ("plan_hash", .str batch.planHash)]

/-- The payload, before the candidates are validated.  Other types than these
give other bytes. -/
def StoredBatch.ofJson : Json → Option StoredBatch
  | .object payload => do
      return {
        planHash := ← Json.entry? Json.asText payload "plan_hash"
        batchId := ← Json.entry? Json.asText payload "batch_id"
        candidates := ← Json.entry? (Json.asList CandidateRecord.ofJson)
          payload "candidates"
        payloadHash := ← Json.entry? Json.asText payload "payload_hash" }
  | _ => none

/-- `_stored_batch_bytes`. -/
def StoredBatch.fileText (floats : FloatText) (batch : StoredBatch) : String :=
  String.ofList (Json.text floats (.object batch.entries) ++ ['\n'])

/-- The texts of the files by plan hash and batch id. -/
abbrev BatchFiles := Dict (String × String) String

section Files

variable (platform : Platform) {floats : FloatText}
  (reader : JsonReader.FloatReader floats)

/-- `_candidate_payload_hash`. -/
def candidatePayloadHash (candidates : List CandidateRecord) :
    Except PyException String :=
  platform.canonicalJsonHash
    (.array (candidates.map fun candidate => .object candidate.entries))

/-- The pattern `(?:batch|replacement-\d{4})-\d{4,}`. -/
def isBatchId (text : String) : Bool :=
  let characters := text.toList
  let numbered := fun rest : List Char =>
    decide (4 ≤ rest.length) && rest.all platform.isDigit
  ("batch-".toList.isPrefixOf characters && numbered (characters.drop 6)) ||
    ("replacement-".toList.isPrefixOf characters &&
      numbered ((characters.drop 12).take 4) &&
      decide ((characters.drop 16).head? = some '-') &&
      numbered (characters.drop 17))

/-- `_path`. -/
def checkBatchPath (planHash batchId : String) : Except PyException Unit := do
  raiseIf (isHexDigest planHash = false)
    (.valueError "plan hash must be a SHA-256 digest")
  raiseIf (isBatchId platform batchId = false)
    (.valueError "batch ID has an invalid shape")

def checkpointError : PyException :=
  .runtimeError "generation checkpoint failed integrity validation"

/-- What a checkpoint says. -/
def readStoredBatch (text : String) : Option StoredBatch := do
  let payload ← JsonReader.loads reader text.toList
  let batch ← StoredBatch.ofJson payload
  let candidates ← batch.candidates.mapM (CandidateRecord.validate platform)
  return { batch with candidates := candidates }

namespace BatchFiles

/-- `FileBatchRepository.get`. -/
def get (files : BatchFiles) (planHash batchId : String) :
    Except PyException (Option StoredBatch) := do
  checkBatchPath platform planHash batchId
  match files.get? (planHash, batchId) with
  | none => return none
  | some text =>
      match readStoredBatch platform reader text with
      | none => .error checkpointError
      | some stored => do
          let payloadHash ← candidatePayloadHash platform stored.candidates
          raiseIf (text ≠ stored.fileText floats ∨
              stored.planHash ≠ planHash ∨ stored.batchId ≠ batchId ∨
              stored.payloadHash ≠ payloadHash) checkpointError
          return some stored

/-- `FileBatchRepository.put`. -/
def put (files : BatchFiles) (batch : StoredBatch) :
    Except PyException Unit × BatchFiles :=
  match files.get platform reader batch.planHash batch.batchId with
  | .error error => (.error error, files)
  | .ok (some existing) =>
      if existing ≠ batch then
        (.error (.runtimeError "immutable generation batch already exists"),
          files)
      else (.ok (), files)
  | .ok none =>
      match candidatePayloadHash platform batch.candidates with
      | .error error => (.error error, files)
      | .ok payloadHash =>
          if batch.payloadHash ≠ payloadHash then
            (.error (.runtimeError
              "generation batch payload hash does not match"), files)
          else
            (.ok (), files.set (batch.planHash, batch.batchId)
              (batch.fileText floats))

end BatchFiles

end Files

/-! ## Generation -/

/-- What a generator awaits of its repository and its gateway. -/
inductive BatchOp where
  | get (planHash batchId : String)
  | generate (request : GenerateRequest)
  | put (batch : StoredBatch)

abbrev BatchOp.Reply : BatchOp → Type
  | .get _ _ => Option StoredBatch
  | .generate _ => GenerateResponse
  | .put _ => Unit

abbrev BatchProgram (α : Type) : Type :=
  Program BatchOp BatchOp.Reply PyException α

open Program (await fromExcept)

/-- A generator.  Its repository and its gateway are operations. -/
structure BenchmarkGenerator where
  platform : Platform
  floats : FloatText
  reader : JsonReader.FloatReader floats
  config : GenerationConfig

namespace BenchmarkGenerator

variable (generator : BenchmarkGenerator)

def envelopeError : PyException :=
  .valueError "provider returned invalid candidate batch JSON"

/-- `CandidateBatchEnvelope`, before the validators of the candidates. -/
def envelopeOfJson : Json → Option (List CandidateRecord)
  | .object entries =>
      if Json.hasOnly ["candidates"] entries then
        Json.entry? (Json.asList CandidateRecord.ofJson) entries "candidates"
      else none
  | _ => none

/-- `CandidateBatchEnvelope.model_validate_json`. -/
def readEnvelope (content : String) :
    Except PyException (List CandidateRecord) :=
  let candidates := do
    let payload ← JsonReader.loads generator.reader content.toList
    let records ← envelopeOfJson payload
    records.mapM (CandidateRecord.validate generator.platform)
  match candidates with
  | some candidates => .ok candidates
  | none => .error envelopeError

/-- The loop body over the candidates and their jobs. -/
def authorize (plan : GenerationPlan) (batch : GenerationBatch)
    (response : GenerateResponse)
    (pair : CandidateRecord × GenerationJob) :
    Except PyException CandidateRecord := do
  let (candidate, job) := pair
  validateCandidateWindow generator.platform candidate job.window
  let sourceWindowHash ←
    generator.platform.canonicalJsonHash job.window.dump
  let candidateId ←
    generator.platform.canonicalJsonHash (candidateIdentity plan job)
  return { candidate with
    candidateId := candidateId
    generator := { candidate.generator with
      modelId := plan.modelId
      promptVersion := plan.promptVersion
      planHash := plan.planHash
      batchId := batch.batchId
      sourceWindowHash := sourceWindowHash
      correlationId := response.correlationId
      cacheHit := response.cacheHit } }

/-- The request for a batch. -/
def requestFor (plan : GenerationPlan) (batch : GenerationBatch) :
    Except PyException GenerateRequest := do
  let prompt ← generationPrompt generator.platform plan batch
  let tokens ← generator.platform.tokenCount prompt
  return {
    modelId := plan.modelId
    prompt := prompt
    providerParams :=
      [("response_format", .object [("type", .str "json_object")])]
    inputTokens := tokens + 16
    maxOutputTokens := some generator.config.maxOutputTokens }

/-- What is stored of a response. -/
def candidatesOf (plan : GenerationPlan) (batch : GenerationBatch)
    (response : GenerateResponse) : Except PyException StoredBatch := do
  let candidates ← generator.readEnvelope response.content
  raiseIf (candidates.length ≠ batch.jobs.length ∨
      candidates.map CandidateRecord.questionType ≠
        batch.jobs.map GenerationJob.questionType)
    (.valueError "provider batch does not match planned jobs")
  raiseIf ((candidates.map CandidateRecord.candidateId).toFinset.card ≠
      candidates.length)
    (.valueError "provider batch contains duplicate candidate IDs")
  let authoritative ← (candidates.zip batch.jobs).mapM
    (generator.authorize plan batch response)
  let payloadHash ← candidatePayloadHash generator.platform authoritative
  return {
    planHash := plan.planHash
    batchId := batch.batchId
    candidates := authoritative
    payloadHash := payloadHash }

/-- `generate_batch`. -/
def generateBatch (plan : GenerationPlan) (batch : GenerationBatch) :
    BatchProgram (List CandidateRecord) := do
  fromExcept (raiseIf (batch ∉ plan.batches)
    (.valueError "batch is not part of the immutable generation plan"))
  let stored ← await (BatchOp.get plan.planHash batch.batchId)
  match stored with
  | some stored => do
      fromExcept (validateResumedCandidates generator.platform plan batch
        stored.candidates)
      return stored.candidates
  | none => do
      let request ← fromExcept (generator.requestFor plan batch)
      let response ← await (BatchOp.generate request)
      let fresh ← fromExcept (generator.candidatesOf plan batch response)
      await (BatchOp.put fresh)
      return fresh.candidates

end BenchmarkGenerator

end RagBench
