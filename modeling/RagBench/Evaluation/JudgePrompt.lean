import RagBench.Chunking.SpecialTokens
import RagBench.Core.JsonReader
import RagBench.Evaluation.Judge

/-!
# Prompting the judge

The judge gets the rubric and the whole case as one JSON text, without further
escapes.  Its tokens are counted before the gateway is asked.
-/

namespace RagBench

/-- What `strip` leaves of a text that is not blank. -/
def IsStripped (text : String) : Prop :=
  strip text = text ∧ text ≠ ""

instance (text : String) : Decidable (IsStripped text) :=
  inferInstanceAs (Decidable (strip text = text ∧ text ≠ ""))

structure EvidenceText extends EvidenceUnit where
  text : String
  filled : IsStripped text

/-- A validated `JudgeInput`, with all of its fields. -/
structure JudgeCase where
  question : String
  goldAnswer : Option String
  goldEvidence : List EvidenceText
  modelAnswer : String
  answerClaims : List String
  modelCitationIds : List String
  retrievedContext : List EvidenceText
  question_filled : IsStripped question
  modelAnswer_filled : IsStripped modelAnswer
  evidence_unique : ((goldEvidence ++ retrievedContext).map fun item =>
    item.evidenceId).Nodup
  claims_unique : ∃ ids, claimIds answerClaims = .ok ids ∧ ids.Nodup
  citations : (∀ id ∈ modelCitationIds, strip id ≠ "") ∧
    modelCitationIds.Nodup

/-- What the parser reads of it. -/
def JudgeCase.input (value : JudgeCase) : JudgeInput where
  goldEvidence := value.goldEvidence.map EvidenceText.toEvidenceUnit
  answerClaims := value.answerClaims
  modelCitationIds := value.modelCitationIds
  retrievedContext := value.retrievedContext.map EvidenceText.toEvidenceUnit
  evidence_unique := by
    rw [← List.map_append, List.map_map]
    exact value.evidence_unique
  claims_unique := value.claims_unique
  citations := value.citations

def judgeRubricVersion : String := "judge-v1"

/-- A validated `JudgeConfig`: the temperature is zero where there is one. -/
structure JudgeConfig where
  modelId : String
  generatorModelId : String
  temperature : Option PyFloat
  maxOutputTokens : ℤ
  sameModelUnavailabilityReason : Option String := none
  temperatureUnsupportedReason : Option String := none
  identified : IsStripped modelId ∧ IsStripped generatorModelId
  bounded : 0 < maxOutputTokens
  distinct_models : modelId = generatorModelId →
    ∃ reason ∈ sameModelUnavailabilityReason, strip reason ≠ ""
  temperature_zero : ∀ value ∈ temperature, value = .finite 0
  temperature_excused : temperature = none →
    ∃ reason ∈ temperatureUnsupportedReason, strip reason ≠ ""

/-! ## The prompt -/

def EvidenceText.dump (item : EvidenceText) : Json :=
  .object [("evidence_id", .str item.evidenceId), ("text", .str item.text)]

/-- `value.model_dump(mode="json")`. -/
def JudgeCase.dump (value : JudgeCase) : Json :=
  .object
    [("question", .str value.question),
      ("gold_answer", (value.goldAnswer.map .str).getD .null),
      ("gold_evidence", .array (value.goldEvidence.map EvidenceText.dump)),
      ("model_answer", .str value.modelAnswer),
      ("answer_claims", .array (value.answerClaims.map .str)),
      ("model_citation_ids", .array (value.modelCitationIds.map .str)),
      ("retrieved_context",
        .array (value.retrievedContext.map EvidenceText.dump))]

def judgeRubric : Json :=
  .object
    [("version", .str judgeRubricVersion),
      ("correctness", .str ("Score 0..1 against the supplied gold answer " ++
        "and gold evidence only.")),
      ("faithfulness", .str ("Return one support judgment for every " ++
        "supplied material answer claim.")),
      ("citations", .str ("Return one support judgment for every model " ++
        "citation.")),
      ("benchmark_defect", .str ("Flag only defects demonstrated by " ++
        "supplied evidence.")),
      ("provenance", .str ("Every rationale must cite only supplied " ++
        "evidence IDs; never use outside facts."))]

def judgeInstructions : Json :=
  .object
    [("output", .str ("Return one strict JSON object matching the rubric " ++
        "fields.")),
      ("outside_knowledge", .str ("Forbidden. Cite only supplied evidence " ++
        "IDs in rationales.")),
      ("coverage", .str ("Judge every supplied claim and every supplied " ++
        "model citation exactly once."))]

/-- `render_judge_prompt`. -/
def renderJudgePrompt (floats : FloatText) (value : JudgeCase) : String :=
  String.ofList (Json.dumps floats (Json.sorted (.object
    [("rubric", judgeRubric), ("instructions", judgeInstructions),
      ("case", value.dump)])))

/-- `_TOKEN_MARGIN`. -/
def judgeTokenMargin : ℤ := 16

/-- The request of `JudgeRunner.evaluate`. -/
def judgeRequest (floats : FloatText) (platform : Platform)
    (value : JudgeCase) (config : JudgeConfig) :
    Except PyException GenerateRequest := do
  let prompt := renderJudgePrompt floats value
  let tokens ← platform.tokenCount prompt
  return {
    modelId := config.modelId
    prompt := prompt
    context := []
    providerParams := config.temperature.toList.map fun temperature =>
      ("temperature", .float temperature)
    inputTokens := tokens + judgeTokenMargin
    maxOutputTokens := some config.maxOutputTokens }

structure JudgeEvaluation where
  record : JudgeRecord
  modelId : String
  generatorModelId : String
  rubricVersion : String
  rubricHash : String
  temperature : Option PyFloat
  sameModelUnavailabilityReason : Option String
  temperatureUnsupportedReason : Option String
  cached : Option Bool
  correlationId : Option String

/-- `JudgeRunner.evaluate`, for a gateway and the hash of the rubric. -/
def evaluateJudge (floats : FloatText) (platform : Platform)
    (generate : GenerateRequest → Except PyException GenerateResponse)
    (validate : String → Option JudgeRecord) (rubricHash : String)
    (value : JudgeCase) (config : JudgeConfig) :
    Except PyException JudgeEvaluation := do
  let request ← judgeRequest floats platform value config
  let response ← generate request
  let record ← parseJudgeResponse validate response.content value.input
  return {
    record := record
    modelId := config.modelId
    generatorModelId := config.generatorModelId
    rubricVersion := judgeRubricVersion
    rubricHash := rubricHash
    temperature := config.temperature
    sameModelUnavailabilityReason := config.sameModelUnavailabilityReason
    temperatureUnsupportedReason := config.temperatureUnsupportedReason
    cached := response.cacheHit
    correlationId := response.correlationId }

/-! ## The strings of the prompt -/

/-- The texts of a case that are not machine ids. -/
def JudgeCase.texts (value : JudgeCase) : List String :=
  value.question :: (value.goldAnswer.toList ++
    value.goldEvidence.map EvidenceText.text ++
      value.modelAnswer :: (value.answerClaims ++ value.modelCitationIds ++
        value.retrievedContext.map EvidenceText.text))

theorem EvidenceText.spellsNone_dump (item : EvidenceText) :
    item.dump.SpellsNone ↔ SpellsNone item.text.toList := by
  have closed : '<' ∉ item.evidenceId.toList := by
    intro member
    have valid := item.valid
    simp only [isMachineId, decide_eq_true_eq] at valid
    have bracket := List.all_eq_true.mp valid.2.2.1 '<' member
    revert bracket
    decide
  have machine := spellsNone_of_opensNames (opensNames_of_closed closed)
  rw [EvidenceText.dump, Json.spellsNone_entries ["evidence_id", "text"] rfl
    (by decide +kernel)]
  simp [Json.spellsNone_str, machine]

theorem spellsNone_evidence (items : List EvidenceText) :
    (Json.array (items.map EvidenceText.dump)).SpellsNone ↔
      ∀ text ∈ items.map EvidenceText.text, SpellsNone text.toList := by
  rw [Json.spellsNone_array, List.forall_mem_map, List.forall_mem_map]
  simp only [EvidenceText.spellsNone_dump]

theorem JudgeCase.spellsNone_dump (value : JudgeCase) :
    value.dump.SpellsNone ↔
      ∀ text ∈ value.texts, SpellsNone text.toList := by
  have answer : ((value.goldAnswer.map Json.str).getD .null).SpellsNone ↔
      ∀ text ∈ value.goldAnswer.toList, SpellsNone text.toList := by
    cases value.goldAnswer with
    | none => simp [Json.SpellsNone, Json.strings]
    | some answer => simp [Json.spellsNone_str]
  rw [JudgeCase.dump, Json.spellsNone_entries ["question", "gold_answer",
    "gold_evidence", "model_answer", "answer_claims", "model_citation_ids",
    "retrieved_context"] rfl (by decide +kernel)]
  simp only [JudgeCase.texts, List.map_cons, List.map_nil,
    List.forall_mem_cons, List.forall_mem_append, Json.spellsNone_str,
    answer, spellsNone_evidence, Json.spellsNone_texts, and_assoc,
    List.not_mem_nil, false_imp_iff, implies_true, and_true]

theorem judgeRubric_spellsNone : judgeRubric.SpellsNone := by
  apply spellNone_of_opensNames
  simp only [judgeRubric, Json.strings, Json.entryStrings, List.cons_append,
    List.nil_append, List.append_nil, List.forall_mem_cons, List.not_mem_nil,
    false_imp_iff, implies_true, and_true]
  repeat rw [String.toList_append]
  repeat rw [String.toList_ofList]
  decide +kernel

theorem judgeInstructions_spellsNone : judgeInstructions.SpellsNone := by
  apply spellNone_of_opensNames
  simp only [judgeInstructions, Json.strings, Json.entryStrings,
    List.cons_append, List.nil_append, List.append_nil, List.forall_mem_cons,
    List.not_mem_nil, false_imp_iff, implies_true, and_true]
  repeat rw [String.toList_append]
  repeat rw [String.toList_ofList]
  decide +kernel

/-- The rubric and the instructions spell no special token. -/
theorem renderJudgePrompt_spellsNone_iff {floats : FloatText}
    (value : JudgeCase) :
    SpellsNone (renderJudgePrompt floats value).toList ↔
      ∀ text ∈ value.texts, SpellsNone text.toList := by
  rw [renderJudgePrompt, String.toList_ofList,
    Json.spellsNone_dumps_sorted_iff,
    Json.spellsNone_entries ["rubric", "instructions", "case"] rfl
      (by decide +kernel)]
  simp [judgeRubric_spellsNone, judgeInstructions_spellsNone,
    value.spellsNone_dump]

/-- The judge is asked exactly when no text of the case spells a special
token. -/
theorem judgeRequest_ok_iff {floats : FloatText} {encoding : Encoding}
    {platform : Platform} (documented : encoding.Documented)
    (counts : platform.CountsWith encoding) (value : JudgeCase)
    (config : JudgeConfig) :
    (∃ request, judgeRequest floats platform value config = .ok request) ↔
      ∀ text ∈ value.texts, SpellsNone text.toList := by
  rw [← renderJudgePrompt_spellsNone_iff,
    ← documented.tokenCount_ok_iff counts]
  constructor
  · rintro ⟨request, made⟩
    obtain ⟨count, counted, -⟩ := bind_eq_ok.mp made
    exact ⟨count, counted⟩
  · rintro ⟨count, counted⟩
    exact ⟨_, bind_eq_ok.mpr ⟨count, counted, rfl⟩⟩

/-- A case whose model has given that answer. -/
def answeredCase (answer : String) (filled : IsStripped answer) :
    JudgeCase where
  question := "Where?"
  goldAnswer := some "Here."
  goldEvidence := []
  modelAnswer := answer
  answerClaims := []
  modelCitationIds := []
  retrievedContext := []
  question_filled := by decide +kernel
  modelAnswer_filled := filled
  evidence_unique := by decide
  claims_unique := ⟨[], rfl, List.nodup_nil⟩
  citations := ⟨List.forall_mem_nil _, List.nodup_nil⟩

def separateJudge : JudgeConfig where
  modelId := "judge"
  generatorModelId := "generator"
  temperature := some (.finite 0)
  maxOutputTokens := 400
  identified := by decide +kernel
  bounded := by decide
  distinct_models := by decide
  temperature_zero := by
    rintro value ⟨⟩
    rfl
  temperature_excused := by
    rintro ⟨⟩

/-- The model has answered with a special token. -/
theorem special_answer_unjudged :
    ¬ ∃ request, judgeRequest sampleFloats guardedPlatform
      (answeredCase "<|endoftext|>" (by decide +kernel)) separateJudge =
        .ok request := by
  rw [judgeRequest_ok_iff guardedEncoding_documented (fun _ => rfl)]
  decide +kernel

end RagBench
