import RagBench.Benchmark.Validation
import RagBench.Core.JsonFormats

/-!
# Records of generated candidates

A candidate with everything that is kept of it, how it is written to a
checkpoint and read again, and what its validators accept.
-/

namespace RagBench

/-! ## Records -/

/-- `UnanswerableTransform`, with all its fields. -/
structure TransformRecord extends UnanswerableTransform where
  originalValue : String
  transformedValue : String
  operation : String
  deriving DecidableEq

structure GeneratorMetadata where
  modelId : String
  promptVersion : String
  planHash : String
  batchId : String
  sourceWindowHash : String
  reasoningKind : String
  correlationId : Option String
  cacheHit : Option Bool
  deriving DecidableEq

/-- `QuestionCandidate`, with all its fields. -/
structure CandidateRecord where
  candidateId : String
  question : String
  goldAnswer : Option String
  evidenceSpans : List EvidenceSpan
  questionType : QuestionType
  difficulty : Difficulty
  answerable : Bool
  assertedAbsentFacts : List String
  unanswerableTransform : Option TransformRecord
  generator : GeneratorMetadata
  validation : ValidationStatus
  deriving DecidableEq

/-! ## Names -/

def QuestionType.ofJson : Json → Option QuestionType
  | .str "fact" => some .fact
  | .str "numeric_table" => some .numericTable
  | .str "comparison" => some .comparison
  | .str "multihop" => some .multihop
  | .str "unanswerable" => some .unanswerable
  | .str "complex_summary" => some .complexSummary
  | _ => none

def Difficulty.value : Difficulty → String
  | .easy => "easy"
  | .medium => "medium"
  | .hard => "hard"

def Difficulty.ofJson : Json → Option Difficulty
  | .str "easy" => some .easy
  | .str "medium" => some .medium
  | .str "hard" => some .hard
  | _ => none

def ValidationDecision.value : ValidationDecision → String
  | .unvalidated => "unvalidated"
  | .accepted => "accepted"
  | .rejected => "rejected"

def ValidationDecision.ofJson : Json → Option ValidationDecision
  | .str "unvalidated" => some .unvalidated
  | .str "accepted" => some .accepted
  | .str "rejected" => some .rejected
  | _ => none

/-! ## Writing and reading -/

def EvidenceSpan.entries (span : EvidenceSpan) : List (String × Json) :=
  [("text", .str span.text), ("document_id", .str span.documentId),
    ("page", .int span.page), ("chunk_id", .str span.chunkId)]

def spanNames : List String :=
  ["text", "document_id", "page", "chunk_id"]

def EvidenceSpan.ofJson : Json → Option EvidenceSpan
  | .object raw =>
      if Json.hasOnly spanNames raw then do
        return {
          text := ← Json.entry? Json.asText raw "text"
          documentId := ← Json.entry? Json.asText raw "document_id"
          page := ← Json.entry? Json.asNat raw "page"
          chunkId := ← Json.entry? Json.asText raw "chunk_id" }
      else none
  | _ => none

def GeneratorMetadata.entries (generator : GeneratorMetadata) :
    List (String × Json) :=
  [("model_id", .str generator.modelId),
    ("prompt_version", .str generator.promptVersion),
    ("plan_hash", .str generator.planHash),
    ("batch_id", .str generator.batchId),
    ("source_window_hash", .str generator.sourceWindowHash),
    ("reasoning_kind", .str generator.reasoningKind),
    ("correlation_id", (generator.correlationId.map .str).getD .null),
    ("cache_hit", (generator.cacheHit.map .bool).getD .null)]

def generatorNames : List String :=
  ["model_id", "prompt_version", "plan_hash", "batch_id", "source_window_hash",
    "reasoning_kind", "correlation_id", "cache_hit"]

def GeneratorMetadata.ofJson : Json → Option GeneratorMetadata
  | .object raw =>
      if Json.hasOnly generatorNames raw then do
        return {
          modelId := ← Json.entry? Json.asText raw "model_id"
          promptVersion := ← Json.entry? Json.asText raw "prompt_version"
          planHash := ← Json.entry? Json.asText raw "plan_hash"
          batchId := ← Json.entry? Json.asText raw "batch_id"
          sourceWindowHash :=
            ← Json.entry? Json.asText raw "source_window_hash"
          reasoningKind := ← Json.entry? Json.asText raw "reasoning_kind"
          correlationId := ← Json.entryD (Json.asOptional Json.asText) raw
            "correlation_id" none
          cacheHit := ← Json.entryD (Json.asOptional Json.asBool) raw
            "cache_hit" none }
      else none
  | _ => none

def TransformRecord.entries (transform : TransformRecord) :
    List (String × Json) :=
  [("target_document_id", .str transform.targetDocumentId),
    ("target_page", .int transform.targetPage),
    ("target_chunk_id", .str transform.targetChunkId),
    ("original_fact", .str transform.originalFact),
    ("transformed_fact", .str transform.transformedFact),
    ("original_value", .str transform.originalValue),
    ("transformed_value", .str transform.transformedValue),
    ("operation", .str transform.operation)]

def transformNames : List String :=
  ["target_document_id", "target_page", "target_chunk_id", "original_fact",
    "transformed_fact", "original_value", "transformed_value", "operation"]

def TransformRecord.ofJson : Json → Option TransformRecord
  | .object raw =>
      if Json.hasOnly transformNames raw then do
        return {
          targetDocumentId :=
            ← Json.entry? Json.asText raw "target_document_id"
          targetPage := ← Json.entry? Json.asNat raw "target_page"
          targetChunkId := ← Json.entry? Json.asText raw "target_chunk_id"
          originalFact := ← Json.entry? Json.asText raw "original_fact"
          transformedFact := ← Json.entry? Json.asText raw "transformed_fact"
          originalValue := ← Json.entry? Json.asText raw "original_value"
          transformedValue :=
            ← Json.entry? Json.asText raw "transformed_value"
          operation := ← Json.entryD Json.asText raw "operation"
            "controlled_substitution" }
      else none
  | _ => none

def ValidationStatus.entries (status : ValidationStatus) :
    List (String × Json) :=
  [("decision", .str status.decision.value),
    ("rule_codes", .array (status.ruleCodes.map .str))]

def statusNames : List String :=
  ["decision", "rule_codes"]

def ValidationStatus.ofJson : Json → Option ValidationStatus
  | .object raw =>
      if Json.hasOnly statusNames raw then do
        return {
          decision := ← Json.entry? ValidationDecision.ofJson raw "decision"
          ruleCodes :=
            ← Json.entryD (Json.asList Json.asText) raw "rule_codes" [] }
      else none
  | _ => none

/-- `model_dump(mode="json")`. -/
def CandidateRecord.entries (candidate : CandidateRecord) :
    List (String × Json) :=
  [("candidate_id", .str candidate.candidateId),
    ("question", .str candidate.question),
    ("gold_answer", (candidate.goldAnswer.map .str).getD .null),
    ("evidence_spans", .array (candidate.evidenceSpans.map fun span =>
      .object span.entries)),
    ("question_type", .str candidate.questionType.value),
    ("difficulty", .str candidate.difficulty.value),
    ("answerable", .bool candidate.answerable),
    ("asserted_absent_facts",
      .array (candidate.assertedAbsentFacts.map .str)),
    ("unanswerable_transform",
      (candidate.unanswerableTransform.map fun transform =>
        Json.object transform.entries).getD .null),
    ("generator", .object candidate.generator.entries),
    ("validation", .object candidate.validation.entries)]

def candidateNames : List String :=
  ["candidate_id", "question", "gold_answer", "evidence_spans",
    "question_type", "difficulty", "answerable", "asserted_absent_facts",
    "unanswerable_transform", "generator", "validation"]

/-- The types of the fields, before the validators. -/
def CandidateRecord.ofJson : Json → Option CandidateRecord
  | .object raw =>
      if Json.hasOnly candidateNames raw then do
        return {
          candidateId := ← Json.entry? Json.asText raw "candidate_id"
          question := ← Json.entry? Json.asText raw "question"
          goldAnswer :=
            ← Json.entry? (Json.asOptional Json.asText) raw "gold_answer"
          evidenceSpans := ← Json.entry? (Json.asList EvidenceSpan.ofJson)
            raw "evidence_spans"
          questionType :=
            ← Json.entry? QuestionType.ofJson raw "question_type"
          difficulty := ← Json.entry? Difficulty.ofJson raw "difficulty"
          answerable := ← Json.entry? Json.asBool raw "answerable"
          assertedAbsentFacts := ← Json.entryD (Json.asList Json.asText) raw
            "asserted_absent_facts" []
          unanswerableTransform :=
            ← Json.entryD (Json.asOptional TransformRecord.ofJson) raw
              "unanswerable_transform" none
          generator := ← Json.entry? GeneratorMetadata.ofJson raw "generator"
          validation :=
            ← Json.entry? ValidationStatus.ofJson raw "validation" }
      else none
  | _ => none

/-! ## Formats -/

open Json

theorem isFormat_span : IsFormat EvidenceSpan.ofJson
    fun span => .object span.entries := by
  have distinct (span : EvidenceSpan) :
      (span.entries.map Prod.fst).Nodup := by
    have names : spanNames.Nodup := by
      decide
    exact names
  refine isFormat_object distinct (fun span => ?_) fun span => ?_
  · rw [EvidenceSpan.entries]
    simp only [List.forall_mem_cons]
    exact ⟨isFormat_text.both _, isFormat_text.both _, isFormat_nat.both _,
      isFormat_text.both _, List.forall_mem_nil _⟩
  · have text {key value : String}
        (listed : get? span.entries key = some (.str value)) :=
      isFormat_text.entry? (distinct span) listed
    rw [sorted, EvidenceSpan.ofJson,
      if_pos (hasOnly_sorted spanNames rfl), text rfl,
      text rfl, isFormat_nat.entry? (distinct span) rfl, text rfl]
    rfl

theorem isFormat_generator : IsFormat GeneratorMetadata.ofJson
    fun generator => .object generator.entries := by
  have distinct (generator : GeneratorMetadata) :
      (generator.entries.map Prod.fst).Nodup := by
    have names : generatorNames.Nodup := by
      decide
    exact names
  have correlation := isFormat_text.optional fun value => by
    simp [sorted]
  have hit := isFormat_bool.optional fun value => by
    simp [sorted]
  refine isFormat_object distinct (fun generator => ?_) fun generator => ?_
  · rw [GeneratorMetadata.entries]
    simp only [List.forall_mem_cons]
    exact ⟨isFormat_text.both _, isFormat_text.both _, isFormat_text.both _,
      isFormat_text.both _, isFormat_text.both _, isFormat_text.both _,
      correlation.both _, hit.both _, List.forall_mem_nil _⟩
  · have text {key value : String}
        (listed : get? generator.entries key = some (.str value)) :=
      isFormat_text.entry? (distinct generator) listed
    rw [sorted, GeneratorMetadata.ofJson,
      if_pos (hasOnly_sorted generatorNames rfl),
      text rfl, text rfl, text rfl, text rfl, text rfl, text rfl,
      correlation.entryD (distinct generator) rfl,
      hit.entryD (distinct generator) rfl]
    rfl

theorem isFormat_transform : IsFormat TransformRecord.ofJson
    fun transform => .object transform.entries := by
  have distinct (transform : TransformRecord) :
      (transform.entries.map Prod.fst).Nodup := by
    have names : transformNames.Nodup := by
      decide
    exact names
  refine isFormat_object distinct (fun transform => ?_) fun transform => ?_
  · rw [TransformRecord.entries]
    simp only [List.forall_mem_cons]
    exact ⟨isFormat_text.both _, isFormat_nat.both _, isFormat_text.both _,
      isFormat_text.both _, isFormat_text.both _, isFormat_text.both _,
      isFormat_text.both _, isFormat_text.both _, List.forall_mem_nil _⟩
  · have text {key value : String}
        (listed : get? transform.entries key = some (.str value)) :=
      isFormat_text.entry? (distinct transform) listed
    rw [sorted, TransformRecord.ofJson,
      if_pos (hasOnly_sorted transformNames rfl),
      text rfl, isFormat_nat.entry? (distinct transform) rfl, text rfl,
      text rfl, text rfl, text rfl, text rfl,
      isFormat_text.entryD (distinct transform) rfl]
    rfl

theorem isFormat_questionType : IsFormat QuestionType.ofJson
    fun kind => .str kind.value :=
  isFormat_name fun kind => by cases kind <;> rfl

theorem isFormat_difficulty : IsFormat Difficulty.ofJson
    fun difficulty => .str difficulty.value :=
  isFormat_name fun difficulty => by cases difficulty <;> rfl

theorem isFormat_decision : IsFormat ValidationDecision.ofJson
    fun decision => .str decision.value :=
  isFormat_name fun decision => by cases decision <;> rfl

theorem isFormat_status : IsFormat ValidationStatus.ofJson
    fun status => .object status.entries := by
  have distinct (status : ValidationStatus) :
      (status.entries.map Prod.fst).Nodup := by
    have names : statusNames.Nodup := by
      decide
    exact names
  refine isFormat_object distinct (fun status => ?_) fun status => ?_
  · rw [ValidationStatus.entries]
    simp only [List.forall_mem_cons]
    exact ⟨isFormat_decision.both _, isFormat_text.list.both _,
      List.forall_mem_nil _⟩
  · rw [sorted, ValidationStatus.ofJson,
      if_pos (hasOnly_sorted statusNames rfl),
      isFormat_decision.entry? (distinct status) rfl,
      isFormat_text.list.entryD (distinct status) rfl]
    rfl

theorem isFormat_candidate : IsFormat CandidateRecord.ofJson
    fun candidate => .object candidate.entries := by
  have distinct (candidate : CandidateRecord) :
      (candidate.entries.map Prod.fst).Nodup := by
    have names : candidateNames.Nodup := by
      decide
    exact names
  have answer := isFormat_text.optional fun value => by
    simp [sorted]
  have transform := isFormat_transform.optional fun value => by
    simp [sorted]
  refine isFormat_object distinct (fun candidate => ?_) fun candidate => ?_
  · rw [CandidateRecord.entries]
    simp only [List.forall_mem_cons]
    exact ⟨isFormat_text.both _, isFormat_text.both _, answer.both _,
      isFormat_span.list.both _, isFormat_questionType.both _,
      isFormat_difficulty.both _, isFormat_bool.both _,
      isFormat_text.list.both _, transform.both _,
      isFormat_generator.both _, isFormat_status.both _,
      List.forall_mem_nil _⟩
  · have keys := distinct candidate
    rw [sorted, CandidateRecord.ofJson,
      if_pos (hasOnly_sorted candidateNames rfl),
      isFormat_text.entry? keys rfl, isFormat_text.entry? keys rfl,
      answer.entry? keys rfl, isFormat_span.list.entry? keys rfl,
      isFormat_questionType.entry? keys rfl,
      isFormat_difficulty.entry? keys rfl, isFormat_bool.entry? keys rfl,
      isFormat_text.list.entryD keys rfl, transform.entryD keys rfl,
      isFormat_generator.entry? keys rfl, isFormat_status.entry? keys rfl]
    rfl

end RagBench
