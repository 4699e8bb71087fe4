import RagBench.Decimal
import RagBench.Execution
import RagBench.Rag.Citations
import RagBench.Rag.Config
import RagBench.Rag.ContextPacking
import RagBench.Related

/-!
# Answers

The service retrieves, builds the context, generates, parses and cites.  The
retriever, the evidence source and the gateway are awaited: they may return
anything, or raise.
-/

namespace RagBench

structure GenerationUsage where
  inputTokens : Option ℤ
  outputTokens : Option ℤ

structure RagAnswer where
  question : String
  answer : String
  abstained : Bool
  evidence : List ContextItem
  citations : List ResolvedCitation
  latencyMs : ℤ
  usage : GenerationUsage
  experimentId : String
  configId : String
  modelId : String
  promptVersion : PromptVersion
  cached : Option Bool
  correlationId : Option String
  providerResponseId : Option String

inductive RagOp where
  | perfCounter
  | search (question : String) (topK : ℤ) (filter : SearchFilter)
  | resolve (hits : List SearchHit) (filter : SearchFilter)
  | generate (request : GenerateRequest)

abbrev RagReply : RagOp → Type
  | .perfCounter => ℚ
  | .search _ _ _ => List SearchHit
  | .resolve _ _ => List RetrievedChunk
  | .generate _ => GenerateResponse

abbrev RagM := Program RagOp RagReply PyException

def RagOp.isGenerate : RagOp → Bool
  | .generate _ => true
  | _ => false

/-! ## What is resolved -/

/-- The first loop of `_validate_resolved_chunks`: the hits have distinct
ids. -/
def hitsById (hits : List SearchHit) : Except PyException Unit :=
  raiseIf (¬(hits.map SearchHit.chunkId).Nodup)
    (.valueError "retriever returned duplicate chunk IDs")

/-- The second loop, with the ids that were resolved before. -/
def resolveChunks (hits : List SearchHit) :
    List String → List RetrievedChunk → Except PyException (List String)
  | resolved, [] => .ok resolved
  | resolved, chunk :: rest => do
      raiseIf (chunk.hit.chunkId ∈ resolved)
        (.valueError "evidence source returned duplicate chunk IDs")
      match hits.find? fun hit => hit.chunkId = chunk.hit.chunkId with
      | none => .error (.valueError
          "evidence source returned a chunk not requested from retrieval")
      | some canonical => do
          raiseIf (chunk.hit ≠ canonical) (.valueError
            "evidence source changed canonical retrieval evidence")
          resolveChunks hits (resolved ++ [chunk.hit.chunkId]) rest

/-- `_validate_resolved_chunks`. -/
def validateResolvedChunks (hits : List SearchHit)
    (chunks : List RetrievedChunk) : Except PyException Unit := do
  hitsById hits
  let resolved ← resolveChunks hits [] chunks
  raiseIf (¬∀ hit ∈ hits, hit.chunkId ∈ resolved) (.valueError
    "resolved evidence IDs must exactly match retrieval hit IDs")

theorem hit_of_resolveChunks {hits : List SearchHit} {resolved : List String}
    {chunks : List RetrievedChunk} {ids : List String}
    (success : resolveChunks hits resolved chunks = .ok ids) :
    ∀ chunk ∈ chunks, chunk.hit ∈ hits := by
  induction chunks generalizing resolved with
  | nil => exact List.forall_mem_nil _
  | cons chunk rest induction =>
      obtain ⟨⟨⟩, -, success⟩ := bind_eq_ok.mp success
      split at success
      · cases success
      · rename_i canonical found
        obtain ⟨⟨⟩, same, success⟩ := bind_eq_ok.mp success
        have equal := not_not.mp (raiseIf_eq_ok.mp same)
        refine List.forall_mem_cons.mpr ⟨?_, induction success⟩
        rw [equal]
        exact List.mem_of_find?_eq_some found

/-- The chunks that are accepted are those of the hits. -/
theorem hit_of_validateResolvedChunks {hits : List SearchHit}
    {chunks : List RetrievedChunk}
    (success : validateResolvedChunks hits chunks = .ok ()) :
    ∀ chunk ∈ chunks, chunk.hit ∈ hits := by
  obtain ⟨⟨⟩, -, success⟩ := bind_eq_ok.mp success
  obtain ⟨ids, resolved, -⟩ := bind_eq_ok.mp success
  exact hit_of_resolveChunks resolved

/-! ## The service -/

def nonnegativeInt : Option Json → Option ℤ
  | some (.int value) => if value < 0 then none else some value
  | _ => none

/-- `_generation_usage`. -/
def generationUsage (response : GenerateResponse) : GenerationUsage :=
  match Json.get? response.rawResponse "usage" with
  | some (.object raw) =>
      { inputTokens := nonnegativeInt (Json.get? raw "prompt_tokens")
        outputTokens := nonnegativeInt (Json.get? raw "completion_tokens") }
  | _ => { inputTokens := none, outputTokens := none }

def providerChatFramingTokenMargin : ℤ := 16

/-- The libraries, and the prompt templates of the package. -/
structure RagService where
  floats : FloatText
  platform : Platform
  parser : JsonParser floats
  reprText : String → String
  templates : PromptVersion → String

namespace RagService

variable (service : RagService)

/-- The request for a context. -/
def request (config : RagConfig) (question : String)
    (context : ContextBundle) : Except PyException GenerateRequest := do
  let prompt ← renderPrompt service.templates config.promptVersion question
    context
  let exactPromptTokens ← service.platform.tokenCount prompt
  let providerParams ← providerParamsJson config.providerParams
  return {
    modelId := config.modelId
    prompt := prompt
    context := []
    providerParams := providerParams
    inputTokens := exactPromptTokens + providerChatFramingTokenMargin
    maxOutputTokens := some config.maxOutputTokens }

/-- What the model wrote, and its citations. -/
def cite (config : RagConfig) (context : ContextBundle)
    (response : GenerateResponse) :
    Except PyException (GeneratedAnswer × List ResolvedCitation) := do
  let generated ← parseGeneratedAnswer service.parser response.content
  validateAnswerPolicy generated config.promptVersion.value
  let citations ← resolveCitations service.reprText generated.citations context
  return (generated, citations)

/-- The answer in the end. -/
def ragAnswer (question : String) (config : RagConfig) (started finished : ℚ)
    (context : ContextBundle) (response : GenerateResponse)
    (generated : GeneratedAnswer) (citations : List ResolvedCitation) :
    RagAnswer where
  question := question
  answer := generated.answer
  abstained := generated.abstained
  evidence := context.items
  citations := citations
  latencyMs := max 0 (Decimal.halfEven ((finished - started) * 1000))
  usage := generationUsage response
  experimentId := config.experimentId
  configId := config.configId
  modelId := config.modelId
  promptVersion := config.promptVersion
  cached := response.cacheHit
  correlationId := response.correlationId
  providerResponseId := (Json.get? response.rawResponse "id").bind strictText

def answer (question : String) (config : RagConfig) : RagM RagAnswer := do
  Program.fromExcept (raiseIf (strip question = "")
    (.valueError "question cannot be blank"))
  let started : ℚ ← Program.await RagOp.perfCounter
  let hits : List SearchHit ← Program.await
    (RagOp.search question config.topK config.searchFilter)
  let chunks : List RetrievedChunk ← Program.await
    (RagOp.resolve hits config.searchFilter)
  Program.fromExcept (validateResolvedChunks hits chunks)
  let context ← Program.fromExcept (ContextBuilder.build service.floats
    service.platform chunks config.contextTokenBudget)
  let request ← Program.fromExcept (service.request config question context)
  let response : GenerateResponse ← Program.await
    (RagOp.generate request)
  let (generated, citations) ← Program.fromExcept
    (service.cite config context response)
  let finished : ℚ ← Program.await RagOp.perfCounter
  return ragAnswer question config started finished context response generated
    citations

end RagService

/-! ## What is built -/

namespace ContextBuilder

variable {floats : FloatText} {platform : Platform}

/-- The text fits the budget. -/
def Within (platform : Platform) (tokenBudget : ℤ) (text : String) : Prop :=
  ∃ count : ℕ, platform.tokenCount text = .ok count ∧ count ≤ tokenBudget

/-- What is packed fits, if what was before does. -/
theorem pack_within {tokenBudget : ℤ} {index : ℕ} {serialized : List String}
    {rows : List RetrievedChunk} {items : List ContextItem}
    {truncated : List String}
    (packed : pack floats platform tokenBudget index serialized rows =
      .ok (items, truncated))
    (within : Within platform tokenBudget
      (documentSeparator.intercalate serialized)) :
    Within platform tokenBudget (documentSeparator.intercalate
      (serialized ++ items.map fun item => item.serialized)) := by
  induction rows generalizing index serialized items truncated with
  | nil =>
      cases packed
      rwa [List.map_nil, List.append_nil]
  | cons row rows induction =>
      obtain ⟨candidateTokens, counted, packed⟩ := bind_eq_ok.mp packed
      split_ifs at packed with large
      · cases packed
        rwa [List.map_nil, List.append_nil]
      · obtain ⟨tokenCount, -, packed⟩ := bind_eq_ok.mp packed
        obtain ⟨⟨others, rest⟩, later, packed⟩ := bind_eq_ok.mp packed
        cases packed
        have grown := induction later
          ⟨candidateTokens, counted, not_lt.mp large⟩
        rwa [List.append_assoc] at grown

theorem build_within {hits : List RetrievedChunk} {tokenBudget : ℤ}
    {bundle : ContextBundle} (empty : platform.tokenCount "" = .ok 0)
    (built : build floats platform hits tokenBudget = .ok bundle) :
    bundle.tokenCount ≤ tokenBudget := by
  obtain ⟨⟨⟩, nonnegative, built⟩ := bind_eq_ok.mp built
  obtain ⟨distinct, -, built⟩ := bind_eq_ok.mp built
  obtain ⟨⟨items, truncated⟩, packed, built⟩ := bind_eq_ok.mp built
  obtain ⟨tokenCount, counted, built⟩ := bind_eq_ok.mp built
  cases built
  have start : Within platform tokenBudget
      (documentSeparator.intercalate []) :=
    ⟨0, empty, not_lt.mp (raiseIf_eq_ok.mp nonnegative)⟩
  obtain ⟨count, same, within⟩ := pack_within packed start
  rw [List.nil_append, counted, Except.ok.injEq] at same
  change (tokenCount : ℤ) ≤ tokenBudget
  rwa [same]

/-- Packed items are made from their rows. -/
theorem Packed.item {index : ℕ} {rows : List RetrievedChunk}
    {items : List ContextItem} (packed : Packed floats index rows items) :
    ∀ item ∈ items, ∃ row ∈ rows,
      item = contextItem row item.citationId item.serialized
        item.tokenCount := by
  induction packed with
  | nil => exact List.forall_mem_nil _
  | cons tokenCount _ induction =>
      refine List.forall_mem_cons.mpr
        ⟨⟨_, List.mem_cons_self, rfl⟩, fun item member => ?_⟩
      obtain ⟨row, listed, same⟩ := induction item member
      exact ⟨row, List.mem_cons_of_mem _ listed, same⟩

end ContextBuilder

/-! ## What an answer cites -/

namespace RagService

/-- What is known of an answer over a context, of chunks of the hits. -/
structure Cites (config : RagConfig) (hits : List SearchHit)
    (chunks : List RetrievedChunk) (context : ContextBundle)
    (answer : RagAnswer) : Prop where
  evidence : answer.evidence = context.items
  budget : context.tokenCount ≤ config.contextTokenBudget
  distinct : (answer.citations.map ResolvedCitation.citationId).Nodup
  cited : ∀ citation ∈ answer.citations, ∃ item ∈ context.items,
    citation = item.citation ∧ ∃ chunk ∈ chunks, chunk.hit ∈ hits ∧
      item = ContextBuilder.contextItem chunk item.citationId item.serialized
        item.tokenCount
  abstained : answer.abstained = true → answer.citations = []
  required : config.promptVersion ≠ .v1 → answer.abstained = false →
    answer.citations ≠ []

variable {service : RagService} {σ : Type}
  {perform : σ → (op : RagOp) → Except PyException (RagReply op) → σ → Prop}
  {state finish : σ} {events : List (Awaited RagOp RagReply PyException)}
  {question : String} {config : RagConfig}
  {result : Except PyException RagAnswer}

/-- The runs of `answer`: some step raises, after one call of the model at
most, or all steps return. -/
inductive Answered (service : RagService) (question : String)
    (config : RagConfig) : List (Awaited RagOp RagReply PyException) →
      Except PyException RagAnswer → Prop where
  | failed {events : List (Awaited RagOp RagReply PyException)}
      {error : PyException}
      (once : (events.countP fun event => event.op.isGenerate) ≤ 1) :
      Answered service question config events (.error error)
  | answered {started finished : ℚ} {hits : List SearchHit}
      {chunks : List RetrievedChunk} {context : ContextBundle}
      {request : GenerateRequest} {response : GenerateResponse}
      {generated : GeneratedAnswer} {citations : List ResolvedCitation}
      (valid : validateResolvedChunks hits chunks = .ok ())
      (built : ContextBuilder.build service.floats service.platform chunks
        config.contextTokenBudget = .ok context)
      (asked : service.request config question context = .ok request)
      (cited : service.cite config context response =
        .ok (generated, citations)) :
      Answered service question config
        [⟨.perfCounter, .ok started⟩,
          ⟨.search question config.topK config.searchFilter, .ok hits⟩,
          ⟨.resolve hits config.searchFilter, .ok chunks⟩,
          ⟨.generate request, .ok response⟩, ⟨.perfCounter, .ok finished⟩]
        (.ok (ragAnswer question config started finished context response
          generated citations))

theorem answer_cases
    (executed : (service.answer question config).Executes perform state events
      result finish) : Answered service question config events result := by
  unfold answer at executed
  rcases Program.executes_fromExcept_bind.mp executed with
    ⟨error, -, rfl, rfl, rfl⟩ | ⟨⟨⟩, -, counting⟩
  · exact .failed (by simp [RagOp.isGenerate])
  rcases Program.executes_await_bind.mp counting with
    ⟨error, -, rfl, rfl⟩ | ⟨started, _, _, -, searching, rfl⟩
  · exact .failed (by simp [RagOp.isGenerate])
  rcases Program.executes_await_bind.mp searching with
    ⟨error, -, rfl, rfl⟩ | ⟨hits, _, _, -, resolving, rfl⟩
  · exact .failed (by simp [RagOp.isGenerate])
  rcases Program.executes_await_bind.mp resolving with
    ⟨error, -, rfl, rfl⟩ | ⟨chunks, _, _, -, validating, rfl⟩
  · exact .failed (by simp [RagOp.isGenerate])
  rcases Program.executes_fromExcept_bind.mp validating with
    ⟨error, -, rfl, rfl, rfl⟩ | ⟨⟨⟩, valid, building⟩
  · exact .failed (by simp [RagOp.isGenerate])
  rcases Program.executes_fromExcept_bind.mp building with
    ⟨error, -, rfl, rfl, rfl⟩ | ⟨context, built, requesting⟩
  · exact .failed (by simp [RagOp.isGenerate])
  rcases Program.executes_fromExcept_bind.mp requesting with
    ⟨error, -, rfl, rfl, rfl⟩ | ⟨request, asked, generating⟩
  · exact .failed (by simp [RagOp.isGenerate])
  rcases Program.executes_await_bind.mp generating with
    ⟨error, -, rfl, rfl⟩ | ⟨response, _, _, -, citing, rfl⟩
  · exact .failed (by simp [RagOp.isGenerate])
  rcases Program.executes_fromExcept_bind.mp citing with
    ⟨error, -, rfl, rfl, rfl⟩ | ⟨⟨generated, citations⟩, cited, finishing⟩
  · exact .failed (by simp [RagOp.isGenerate])
  rcases Program.executes_await_bind.mp finishing with
    ⟨error, -, rfl, rfl⟩ | ⟨finished, _, _, -, returning, rfl⟩
  · exact .failed (by simp [RagOp.isGenerate])
  obtain ⟨rfl, rfl, -⟩ := Program.executes_pure.mp returning
  exact .answered valid built asked cited

theorem cites_of_steps (empty : service.platform.tokenCount "" = .ok 0)
    {hits : List SearchHit} {chunks : List RetrievedChunk}
    {context : ContextBundle} {response : GenerateResponse}
    {generated : GeneratedAnswer} {citations : List ResolvedCitation}
    (valid : validateResolvedChunks hits chunks = .ok ())
    (built : ContextBuilder.build service.floats service.platform chunks
      config.contextTokenBudget = .ok context)
    (cited : service.cite config context response =
      .ok (generated, citations)) (started finished : ℚ) :
    Cites config hits chunks context (ragAnswer question config started
      finished context response generated citations) := by
  obtain ⟨parsed, -, cited⟩ := bind_eq_ok.mp cited
  obtain ⟨⟨⟩, policy, cited⟩ := bind_eq_ok.mp cited
  obtain ⟨found, resolved, cited⟩ := bind_eq_ok.mp cited
  cases cited
  obtain ⟨distinct, cites⟩ := resolveCitations_ok resolved
  obtain ⟨silent, required⟩ := validateAnswerPolicy_ok policy
  have ids := map_citationId_of_cites cites
  constructor
  case evidence => rfl
  case budget => exact ContextBuilder.build_within empty built
  case distinct =>
    change (citations.map ResolvedCitation.citationId).Nodup
    rwa [ids]
  case cited =>
    intro citation member
    obtain ⟨citationId, -, item, inContext, -, same⟩ :=
      exists_left_of_forall₂ cites member
    obtain ⟨⟨rows, within, packed⟩, -⟩ := ContextBuilder.build_spec built
    obtain ⟨chunk, listed, made⟩ := packed.item item inContext
    exact ⟨item, inContext, same, chunk, within listed,
      hit_of_validateResolvedChunks valid chunk (within listed), made⟩
  case abstained =>
    intro silence
    rw [silent silence] at ids
    exact List.map_eq_nil_iff.mp ids
  case required =>
    intro version answered empty
    refine required version answered ?_
    rw [← ids]
    exact List.map_eq_nil_iff.mpr empty

/-- Whatever the retriever, the evidence source and the gateway do, an answer
cites what was retrieved, and the model is called once at most. -/
theorem answer_cites_retrieved (empty : service.platform.tokenCount "" = .ok 0)
    (executed : (service.answer question config).Executes perform state events
      result finish) :
    (events.countP fun event => event.op.isGenerate) ≤ 1 ∧
      ∀ answer, result = .ok answer → ∃ hits chunks context,
        ⟨.search question config.topK config.searchFilter, .ok hits⟩ ∈
            events ∧
          ⟨.resolve hits config.searchFilter, .ok chunks⟩ ∈ events ∧
          ContextBuilder.build service.floats service.platform chunks
            config.contextTokenBudget = .ok context ∧
          Cites config hits chunks context answer := by
  cases answer_cases executed with
  | failed once =>
      refine ⟨once, fun answer same => ?_⟩
      cases same
  | @answered started finished hits chunks context request response generated
      citations valid built asked cited =>
      refine ⟨by simp [RagOp.isGenerate], fun answer same => ?_⟩
      cases same
      exact ⟨hits, chunks, context, by simp, by simp, built,
        cites_of_steps empty valid built cited started finished⟩

/-! ## A sample answer -/

open ContextBuilder

def citingService : RagService where
  floats := sampleFloats
  platform := ContextBuilder.characterPlatform
  parser := JsonReader.parser JsonReader.sampleReader
  reprText := fun text => "'" ++ text ++ "'"
  templates := templateEnd

def citingConfig : RagConfig where
  searchFilter := ⟨"corpus", "parse", "heading", "embed", []⟩
  modelId := "solar"
  promptVersion := .v2
  topK := 2
  contextTokenBudget := 1000
  maxOutputTokens := 200
  experimentId := "experiment"
  configId := "config"
  providerParams := .mappingProxy []
  identified := by decide +kernel
  bounded := by decide
  frozen := ⟨[], rfl⟩

/-- One chunk is retrieved, and cited in a fence. -/
def citingReplies (_ : Unit) (op : RagOp) :
    Except PyException (RagReply op) × Unit :=
  match op with
  | .perfCounter => (.ok 0, ())
  | .search _ _ _ => (.ok [ContextBuilder.forgedRow.hit], ())
  | .resolve _ _ => (.ok [ContextBuilder.forgedRow], ())
  | .generate _ => (.ok
      { content := "```json\n\x7b\"answer\":\"Yes\",\"citations\":" ++
          "[\"C1\"],\"abstained\":false\x7d\n```"
        rawResponse := [] }, ())

/-- The events, the outcome and the state of the sample run. -/
def citingRun :=
  Program.execute citingReplies
    (citingService.answer "Which year?" citingConfig) ()

/-- The context of the sample run. -/
def citingContext : ContextBundle :=
  let serialized := serializeChunk sampleFloats forgedRow "C1"
  let text := documentSeparator.intercalate [serialized]
  { items := [contextItem forgedRow "C1" serialized serialized.length]
    text := text
    tokenCount := text.length
    tokenBudget := 1000
    duplicateChunkIds := sortedIds ∅
    truncatedChunkIds := [] }

theorem citingContext_built :
    build sampleFloats characterPlatform [forgedRow] 1000 =
      .ok citingContext := by
  -- The length is counted in a list, decoding the text would take long.
  have short : (sentinelBlock
      (payloadOf sampleFloats forgedRow "C1")).length ≤ 1000 := by
    decide +kernel
  rw [← serializeChunk_toList, String.length_toList] at short
  have fits : ¬ (1000 : ℤ) <
      (serializeChunk sampleFloats forgedRow "C1").length := by
    omega
  have packed : pack sampleFloats characterPlatform 1000 1 [] [forgedRow] =
      .ok (citingContext.items, []) := by
    refine bind_eq_ok.mpr ⟨_, rfl, ?_⟩
    exact if_neg fits
  refine bind_eq_ok.mpr ⟨(), rfl, bind_eq_ok.mpr ⟨⟨[forgedRow], ∅⟩, ?_,
    bind_eq_ok.mpr ⟨_, packed, rfl⟩⟩⟩
  rw [sortBy, List.mergeSort_singleton]
  rfl

/-- What the model wrote in the sample run. -/
def citingResponse : GenerateResponse where
  content := "```json\n\x7b\"answer\":\"Yes\",\"citations\":" ++
    "[\"C1\"],\"abstained\":false\x7d\n```"
  rawResponse := []

theorem citing_answered {σ : Type} {state finish : σ}
    {events : List (Awaited RagOp RagReply PyException)}
    {result : Except PyException RagAnswer}
    (executed : (citingService.answer "Which year?" citingConfig).Executes
      (fun _ op outcome _ => outcome = (citingReplies () op).1) state events
        result finish) :
    ∃ answer, result = .ok answer ∧
      answer.citations.map ResolvedCitation.citationId = ["C1"] := by
  unfold answer at executed
  have filled : strip "Which year?" ≠ "" := by decide +kernel
  rw [raiseIf, if_neg filled] at executed
  obtain ⟨error, wrong, -⟩ | ⟨started, _, _, -, searching, -⟩ :=
    Program.executes_await_bind.mp executed
  · cases wrong
  obtain ⟨error, wrong, -⟩ | ⟨hits, _, _, found, resolving, -⟩ :=
    Program.executes_await_bind.mp searching
  · cases wrong
  obtain rfl := Except.ok.inj found
  obtain ⟨error, wrong, -⟩ | ⟨chunks, _, _, found, validating, -⟩ :=
    Program.executes_await_bind.mp resolving
  · cases wrong
  obtain rfl := Except.ok.inj found
  have valid : validateResolvedChunks [forgedRow.hit] [forgedRow] = .ok () := by
    decide +kernel
  obtain ⟨error, wrong, -⟩ | ⟨_, -, building⟩ :=
    Program.executes_fromExcept_bind.mp validating
  · cases valid.symm.trans wrong
  obtain ⟨error, wrong, -⟩ | ⟨context, built, requesting⟩ :=
    Program.executes_fromExcept_bind.mp building
  · cases citingContext_built.symm.trans wrong
  obtain rfl := Except.ok.inj (citingContext_built.symm.trans built)
  have asked : (citingService.request citingConfig "Which year?"
      citingContext).toOption.isSome = true := by
    decide +kernel
  obtain ⟨error, wrong, -⟩ | ⟨request, -, generating⟩ :=
    Program.executes_fromExcept_bind.mp requesting
  · rw [wrong] at asked
    cases asked
  obtain ⟨error, wrong, -⟩ | ⟨response, _, _, replied, citing, -⟩ :=
    Program.executes_await_bind.mp generating
  · cases wrong
  obtain rfl : response = citingResponse := Except.ok.inj replied
  have ids : ((citingService.cite citingConfig citingContext
      citingResponse).toOption.map fun cited =>
        cited.2.map ResolvedCitation.citationId) = some ["C1"] := by
    decide +kernel
  obtain ⟨error, wrong, -⟩ | ⟨⟨generated, citations⟩, cited, finishing⟩ :=
    Program.executes_fromExcept_bind.mp citing
  · rw [wrong] at ids
    cases ids
  rw [cited] at ids
  obtain ⟨error, wrong, -⟩ | ⟨finished, _, _, -, returning, -⟩ :=
    Program.executes_await_bind.mp finishing
  · cases wrong
  obtain ⟨-, rfl, -⟩ := Program.executes_pure.mp returning
  exact ⟨_, rfl, Option.some.inj ids⟩
theorem citingRun_executes :
    (citingService.answer "Which year?" citingConfig).Executes
      (fun _ op outcome _ => outcome = (citingReplies () op).1) ()
      citingRun.1 citingRun.2.1 citingRun.2.2 :=
  Program.executes_execute (fun _ _ => rfl) _ _

theorem answer_cites_retrieved_fenced :
    ∃ answer hits chunks context, citingRun.2.1 = .ok answer ∧
      answer.citations.map ResolvedCitation.citationId = ["C1"] ∧
      Cites citingConfig hits chunks context answer := by
  have executed : (citingService.answer "Which year?" citingConfig).Executes
      (fun _ _ _ _ => True) () citingRun.1 citingRun.2.1 citingRun.2.2 :=
    Program.executes_execute (fun _ _ => trivial) _ _
  have counts : citingService.platform.tokenCount "" = .ok 0 := rfl
  obtain ⟨-, returned⟩ := answer_cites_retrieved counts executed
  obtain ⟨answer, result, cited⟩ := citing_answered citingRun_executes
  obtain ⟨hits, chunks, context, -, -, -, cites⟩ := returned answer result
  exact ⟨answer, hits, chunks, context, result, cited, cites⟩

end RagService

end RagBench
