import RagBench.Core.JsonReader
import RagBench.Rag.Context
import RagBench.Rag.Prompts

/-!
# Generated answers and their citations

The model writes a JSON object, perhaps in a Markdown fence.  Its citations are
resolved against the items of the context.
-/

namespace RagBench

/-- `class GenerationSchemaError(RuntimeError)`. -/
def generationSchemaError : PyException :=
  ⟨.derived "GenerationSchemaError" .runtimeError, "GENERATION_SCHEMA_ERROR"⟩

/-- `class CitationValidationError(RuntimeError)`. -/
def citationValidationError (message : String) : PyException :=
  ⟨.derived "CitationValidationError" .runtimeError, message⟩

/-! ## Parsing -/

structure GeneratedAnswer where
  answer : String
  citations : List String
  abstained : Bool
  answer_filled : strip answer ≠ ""
  citations_filled : ∀ citationId ∈ citations, strip citationId ≠ ""

/-- A strict string. -/
def strictText : Json → Option String
  | .str text => some text
  | _ => none

/-- `GeneratedAnswer.model_validate` on a decoded text: strict fields, and no
others. -/
def GeneratedAnswer.validate : Json → Option GeneratedAnswer
  | .object entries =>
      if entries.all fun entry =>
          entry.1 ∈ ["answer", "citations", "abstained"] then
        match (Json.get? entries "answer").bind strictText,
            Json.get? entries "citations", Json.get? entries "abstained" with
        | some answer, some (.array items), some (.bool abstained) =>
            match items.mapM strictText with
            | some citations =>
                if filled : strip answer ≠ "" ∧
                    ∀ citationId ∈ citations, strip citationId ≠ "" then
                  some {
                    answer := answer
                    citations := citations
                    abstained := abstained
                    answer_filled := filled.1
                    citations_filled := filled.2 }
                else none
            | none => none
        | _, _, _ => none
      else none
  | _ => none

/-- The text after `lead`. -/
def textAfter (lead text : List Char) : Option (List Char) :=
  if lead.isPrefixOf text then some (text.drop lead.length) else none

/-- The text before `last`. -/
def textBefore (last text : List Char) : Option (List Char) :=
  if last.isSuffixOf text then some (text.take (text.length - last.length))
  else none

/-- `match.group("body")` for the pattern `_JSON_FENCE` on a stripped text.
The spaces before the line break take as much as they can. -/
def fenceBody (text : List Char) : Option (List Char) := do
  let opened ← textAfter "```".toList text
  let rest := (textAfter "json".toList opened).getD opened
  let spaces := rest.takeWhile isSpace
  let breaks := (List.range spaces.length).reverse.filter fun index =>
    spaces[index]? = some '\n'
  breaks.findSome? fun index =>
    textBefore "\n```".toList (rest.drop (index + 1))

/-- `_remove_single_json_fence`. -/
def removeSingleJsonFence (raw : String) : Option String :=
  (fenceBody (strip raw).toList).map String.ofList

example : removeSingleJsonFence "```json\n5\n```" = some "5" := by
  decide +kernel

section Parse

variable {floats : FloatText} (parser : JsonParser floats)

/-- `GeneratedAnswer.model_validate_json`. -/
def GeneratedAnswer.validateJson (raw : String) : Option GeneratedAnswer :=
  (parser.parse (utf8 raw.toList)).bind GeneratedAnswer.validate

def parseGeneratedAnswer (raw : String) :
    Except PyException GeneratedAnswer :=
  match GeneratedAnswer.validateJson parser raw with
  | some answer => .ok answer
  | none =>
      match (removeSingleJsonFence raw).bind
          (GeneratedAnswer.validateJson parser) with
      | some answer => .ok answer
      | none => .error generationSchemaError

end Parse

/-! ## Policy and citations -/

def validateAnswerPolicy (answer : GeneratedAnswer) (promptVersion : String) :
    Except PyException Unit := do
  raiseIf (promptVersion ∉ ["v1", "v2", "v3"])
    (.valueError "unknown prompt version")
  raiseIf (answer.abstained = true ∧ answer.citations ≠ [])
    (citationValidationError "an abstained answer cannot include citations")
  raiseIf (promptVersion ∈ ["v2", "v3"] ∧ answer.abstained = false ∧
      answer.citations = [])
    (citationValidationError
      "a non-abstained context-only answer requires at least one citation")

structure ResolvedCitation where
  citationId : String
  chunkId : String
  documentId : String
  documentTitle : String
  pageStart : ℤ
  pageEnd : ℤ
  sectionPath : List String
  deriving DecidableEq

def ContextItem.citation (item : ContextItem) : ResolvedCitation :=
  { citationId := item.citationId
    chunkId := item.chunkId
    documentId := item.documentId
    documentTitle := item.documentTitle
    pageStart := item.pageStart
    pageEnd := item.pageEnd
    sectionPath := item.sectionPath }

/-- `resolve_citations`; `reprText` is `repr` on strings. -/
def resolveCitations (reprText : String → String) (citationIds : List String)
    (context : ContextBundle) :
    Except PyException (List ResolvedCitation) := do
  raiseIf (¬citationIds.Nodup)
    (citationValidationError "duplicate citation IDs are not allowed")
  let allowed := Dict.ofList
    (context.items.map fun item => (item.citationId, item))
  citationIds.mapM fun citationId =>
    match allowed.get? citationId with
    | none => .error (citationValidationError
        ("citation " ++ reprText citationId ++ " is not in included context"))
    | some item => .ok item.citation

/-- Abstained answers have no citations, and the others have some where the
version requires them. -/
theorem validateAnswerPolicy_ok {answer : GeneratedAnswer}
    {promptVersion : PromptVersion}
    (accepted : validateAnswerPolicy answer promptVersion.value = .ok ()) :
    (answer.abstained = true → answer.citations = []) ∧
      (promptVersion ≠ .v1 → answer.abstained = false →
        answer.citations ≠ []) := by
  obtain ⟨⟨⟩, -, accepted⟩ := bind_eq_ok.mp accepted
  obtain ⟨⟨⟩, silent, accepted⟩ := bind_eq_ok.mp accepted
  have noCitation := raiseIf_eq_ok.mp silent
  have cited := raiseIf_eq_ok.mp accepted
  constructor
  · intro abstained
    by_contra citations
    exact noCitation ⟨abstained, citations⟩
  · intro requires answered empty
    refine cited ⟨?_, answered, empty⟩
    cases promptVersion with
    | v1 => exact absurd rfl requires
    | v2 => decide
    | v3 => decide

/-- The cited id, and the item of the context that has it. -/
def CitesItem (items : List ContextItem) (citationId : String)
    (citation : ResolvedCitation) : Prop :=
  ∃ item ∈ items, item.citationId = citationId ∧ citation = item.citation

theorem resolveCitations_ok {reprText : String → String}
    {citationIds : List String} {context : ContextBundle}
    {citations : List ResolvedCitation}
    (resolved : resolveCitations reprText citationIds context =
      .ok citations) :
    citationIds.Nodup ∧
      List.Forall₂ (CitesItem context.items) citationIds citations := by
  obtain ⟨⟨⟩, distinct, resolved⟩ := bind_eq_ok.mp resolved
  refine ⟨not_not.mp (raiseIf_eq_ok.mp distinct), ?_⟩
  refine (mapM_eq_ok.mp resolved).imp fun citationId citation found => ?_
  split at found
  · cases found
  · rename_i item inContext
    obtain ⟨source, listed, same⟩ :=
      List.mem_map.mp (Dict.mem_of_get?_ofList inContext)
    obtain ⟨rfl, rfl⟩ := Prod.mk.inj same
    exact ⟨source, listed, rfl, (Except.ok.inj found).symm⟩

/-- Citations keep the cited ids in order. -/
theorem map_citationId_of_cites {items : List ContextItem}
    {citationIds : List String} {citations : List ResolvedCitation}
    (related : List.Forall₂ (CitesItem items) citationIds citations) :
    citations.map ResolvedCitation.citationId = citationIds := by
  induction related with
  | nil => rfl
  | cons first _ induction =>
      obtain ⟨item, -, rfl, rfl⟩ := first
      rw [List.map_cons, induction]
      rfl

end RagBench
