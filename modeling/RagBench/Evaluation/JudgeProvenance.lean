import RagBench.Evaluation.Judge
import Mathlib.Data.List.Infix

/-!
# Invented identifiers

A response is rejected for an invented identifier where it names as evidence
what is no supplied evidence, links what is no supplied claim, or has a machine
identifier in a rationale that is no supplied evidence.
-/

namespace RagBench

/-! ## Tokens -/

/-- A word of identifier characters with none before or after it. -/
def Delimited (text word : List Char) : Prop :=
  ∃ before after, text = before ++ word ++ after ∧
    (∀ character ∈ before.getLast?, isIdCharacter character = false) ∧
    ∀ character ∈ after.head?, isIdCharacter character = false

/-- A rationale has a token with the shape of an evidence identifier. -/
def NamesToken (rationale token : String) : Prop :=
  isMachineId token = true ∧ Delimited rationale.toList token.toList

/-- The first run begins the text, and the others come after an end. -/
theorem idRuns_spec (text : List Char) :
    ∃ first others, idRuns text = first :: others ∧
      (∃ after, text = first ++ after ∧
        ∀ character ∈ after.head?, isIdCharacter character = false) ∧
      ∀ run ∈ others, ∃ before after, before ≠ [] ∧
        text = before ++ run ++ after ∧
        (∀ character ∈ before.getLast?, isIdCharacter character = false) ∧
        ∀ character ∈ after.head?, isIdCharacter character = false := by
  induction text with
  | nil => exact ⟨[], [], rfl, ⟨[], rfl, nofun⟩, nofun⟩
  | cons character rest induction =>
      obtain ⟨first, others, runs, ⟨after, whole, ends⟩, later⟩ := induction
      have shifted : ∀ run ∈ others, ∃ before after, before ≠ [] ∧
          character :: rest = before ++ run ++ after ∧
          (∀ character ∈ before.getLast?,
            isIdCharacter character = false) ∧
          ∀ character ∈ after.head?, isIdCharacter character = false := by
        intro run member
        obtain ⟨before, after, some, parts, left, right⟩ := later run member
        refine ⟨character :: before, after, List.cons_ne_nil _ _,
          congrArg (character :: ·) parts, ?_, right⟩
        rwa [List.getLast?_cons_of_ne_nil some]
      rw [idRuns, runs]
      by_cases inside : isIdCharacter character
      · refine ⟨character :: first, others, if_pos inside,
          ⟨after, congrArg (character :: ·) whole, ends⟩, shifted⟩
      · refine ⟨[], first :: others, if_neg inside,
          ⟨character :: rest, rfl, ?_⟩, List.forall_mem_cons.mpr
            ⟨⟨[character], after, List.cons_ne_nil _ _,
              congrArg (character :: ·) whole, ?_, ends⟩, shifted⟩⟩
        · rintro _ ⟨rfl⟩
          exact Bool.eq_false_iff.mpr inside
        · rintro _ ⟨rfl⟩
          exact Bool.eq_false_iff.mpr inside

theorem delimited_of_mem_idRuns {text run : List Char}
    (member : run ∈ idRuns text) : Delimited text run := by
  obtain ⟨first, others, runs, ⟨after, whole, ends⟩, later⟩ := idRuns_spec text
  rw [runs] at member
  rcases List.mem_cons.mp member with rfl | listed
  · exact ⟨[], after, whole, nofun, ends⟩
  · obtain ⟨before, after, -, parts, left, right⟩ := later run listed
    exact ⟨before, after, parts, left, right⟩

theorem namesToken_of_mem {rationale token : String}
    (member : token ∈ evidenceLikeIds rationale) :
    NamesToken rationale token := by
  obtain ⟨found, machine⟩ := List.mem_filter.mp member
  obtain ⟨run, listed, rfl⟩ := List.mem_map.mp found
  refine ⟨machine, ?_⟩
  rw [String.toList_ofList]
  exact delimited_of_mem_idRuns (List.mem_filter.mp listed).1

/-! ## Rejections -/

/-- A check fails, or the block goes on. -/
theorem raiseIf_bind_eq_error {α : Type} {condition : Prop}
    [Decidable condition] {error raised : PyException}
    {next : Unit → Except PyException α} :
    (raiseIf condition raised >>= next) = .error error ↔
      condition ∧ raised = error ∨ ¬ condition ∧ next () = .error error := by
  by_cases fails : condition
  · rw [raiseIf_bind_error fails]
    simp [fails]
  · rw [raiseIf_bind fails]
    simp [fails]

/-- What is refused as evidence, as a claim and in a rationale. -/
structure Refusals (record : JudgeRecord) (value : JudgeInput)
    (error : PyException) : Prop where
  evidence : error = inventedEvidence →
    ∃ id ∈ record.citedEvidence, id ∉ value.allowedEvidence
  claims : error = inventedClaim → ∃ ids, claimIds value.answerClaims =
    .ok ids ∧ ∃ id ∈ record.citedClaims, id ∉ ids
  rationales : error = inventedInRationale →
    ∃ rationale ∈ record.rationaleTexts, ∃ id, NamesToken rationale id ∧
      id ∉ value.allowedEvidence

theorem Refusals.of_other {record : JudgeRecord} {value : JudgeInput}
    {error : PyException}
    (other : error ≠ inventedEvidence ∧ error ≠ inventedClaim ∧
      error ≠ inventedInRationale) : Refusals record value error :=
  ⟨fun same => absurd same other.1, fun same => absurd same other.2.1,
    fun same => absurd same other.2.2⟩

theorem Refusals.of_evidence {record : JudgeRecord} {value : JudgeInput}
    (invented : ∃ id ∈ record.citedEvidence, id ∉ value.allowedEvidence) :
    Refusals record value inventedEvidence :=
  ⟨fun _ => invented, fun same => absurd same (by decide),
    fun same => absurd same (by decide)⟩

theorem Refusals.of_claims {record : JudgeRecord} {value : JudgeInput}
    (invented : ∃ ids, claimIds value.answerClaims = .ok ids ∧
      ∃ id ∈ record.citedClaims, id ∉ ids) :
    Refusals record value inventedClaim :=
  ⟨fun same => absurd same (by decide), fun _ => invented,
    fun same => absurd same (by decide)⟩

theorem Refusals.of_rationales {record : JudgeRecord} {value : JudgeInput}
    (invented : ∃ rationale ∈ record.rationaleTexts, ∃ id,
      NamesToken rationale id ∧ id ∉ value.allowedEvidence) :
    Refusals record value inventedInRationale :=
  ⟨fun same => absurd same (by decide), fun same => absurd same (by decide),
    fun _ => invented⟩

/-- What a rejected response names. -/
theorem parse_refuses {validate : String → Option JudgeRecord} {raw : String}
    {value : JudgeInput} {record : JudgeRecord} {error : PyException}
    (valid : validate raw = some record)
    (failed : parseJudgeResponse validate raw value = .error error) :
    Refusals record value error := by
  obtain ⟨ids, read, -⟩ := value.claims_unique
  rw [parseJudgeResponse, valid] at failed
  dsimp only at failed
  rw [read] at failed
  change (raiseIf _ _ >>= fun _ => _) = _ at failed
  -- One case for each check, in the order of the parser.
  rcases raiseIf_bind_eq_error.mp failed with ⟨-, rfl⟩ | ⟨-, failed⟩
  · exact .of_other (by decide)
  rcases raiseIf_bind_eq_error.mp failed with ⟨-, rfl⟩ | ⟨-, failed⟩
  · exact .of_other (by decide)
  rcases raiseIf_bind_eq_error.mp failed with ⟨invented, rfl⟩ | ⟨-, failed⟩
  · obtain ⟨id, named, absent⟩ := List.any_eq_true.mp invented
    exact .of_evidence ⟨id, named, of_decide_eq_true absent⟩
  rcases raiseIf_bind_eq_error.mp failed with ⟨invented, rfl⟩ | ⟨-, failed⟩
  · obtain ⟨id, named, absent⟩ := List.any_eq_true.mp invented
    exact .of_claims ⟨ids, read, id, named, of_decide_eq_true absent⟩
  rcases raiseIf_bind_eq_error.mp failed with ⟨-, rfl⟩ | ⟨-, failed⟩
  · exact .of_other (by decide)
  rcases raiseIf_bind_eq_error.mp failed with ⟨-, rfl⟩ | ⟨-, failed⟩
  · exact .of_other (by decide)
  rcases raiseIf_bind_eq_error.mp failed with ⟨-, rfl⟩ | ⟨-, failed⟩
  · exact .of_other (by decide)
  rcases raiseIf_bind_eq_error.mp failed with ⟨-, rfl⟩ | ⟨-, failed⟩
  · exact .of_other (by decide)
  rcases raiseIf_bind_eq_error.mp failed with ⟨-, rfl⟩ | ⟨-, failed⟩
  · exact .of_other (by decide)
  rcases raiseIf_bind_eq_error.mp failed with ⟨-, rfl⟩ | ⟨-, failed⟩
  · exact .of_other (by decide)
  rcases raiseIf_bind_eq_error.mp failed with ⟨-, rfl⟩ | ⟨-, failed⟩
  · exact .of_other (by decide)
  rcases raiseIf_bind_eq_error.mp failed with ⟨invented, rfl⟩ | ⟨-, failed⟩
  · obtain ⟨rationale, listed, found⟩ := List.any_eq_true.mp invented
    obtain ⟨id, token, absent⟩ := List.any_eq_true.mp found
    exact .of_rationales ⟨rationale, listed, id, namesToken_of_mem token,
      of_decide_eq_true absent⟩
  rcases raiseIf_bind_eq_error.mp failed with ⟨-, rfl⟩ | ⟨-, failed⟩
  · exact .of_other (by decide)
  · cases failed

/-- A rejected response was no rubric JSON, or its record was read. -/
theorem parse_error {validate : String → Option JudgeRecord} {raw : String}
    {value : JudgeInput} {error : PyException}
    (failed : parseJudgeResponse validate raw value = .error error)
    (strict : judgeParseError "judge response is not strict rubric JSON" ≠
      error) :
    ∃ record, validate raw = some record ∧ Refusals record value error := by
  cases valid : validate raw with
  | none =>
      rw [parseJudgeResponse, valid] at failed
      exact absurd (Except.error.inj failed) strict
  | some record => exact ⟨record, rfl, parse_refuses valid failed⟩

/-- An invented identifier is one that the response itself names: as evidence,
as a linked claim, or in a rationale. -/
theorem rejection_names_invented (validate : String → Option JudgeRecord)
    (raw : String) (value : JudgeInput) :
    (parseJudgeResponse validate raw value = .error inventedEvidence →
      ∃ record, validate raw = some record ∧
        ∃ id ∈ record.citedEvidence, id ∉ value.allowedEvidence) ∧
    (parseJudgeResponse validate raw value = .error inventedClaim →
      ∃ record, validate raw = some record ∧
        ∃ ids, claimIds value.answerClaims = .ok ids ∧
          ∃ id ∈ record.citedClaims, id ∉ ids) ∧
    (parseJudgeResponse validate raw value = .error inventedInRationale →
      ∃ record, validate raw = some record ∧
        ∃ rationale ∈ record.rationaleTexts, ∃ id,
          NamesToken rationale id ∧ id ∉ value.allowedEvidence) := by
  refine ⟨fun failed => ?_, fun failed => ?_, fun failed => ?_⟩
  · obtain ⟨record, valid, refused⟩ := parse_error failed (by decide)
    exact ⟨record, valid, refused.evidence rfl⟩
  · obtain ⟨record, valid, refused⟩ := parse_error failed (by decide)
    exact ⟨record, valid, refused.claims rfl⟩
  · obtain ⟨record, valid, refused⟩ := parse_error failed (by decide)
    exact ⟨record, valid, refused.rationales rfl⟩

/-! ## Supplied identifiers -/

/-- An identifier of the input, of evidence, a claim or a citation. -/
def JudgeInput.Supplies (value : JudgeInput) (id : String) : Prop :=
  id ∈ value.allowedEvidence ∨
    (∃ ids, claimIds value.answerClaims = .ok ids ∧ id ∈ ids) ∨
    id ∈ value.modelCitationIds

/-- An identifier of the response, or a machine identifier in a rationale. -/
def JudgeRecord.Names (record : JudgeRecord) (id : String) : Prop :=
  id ∈ record.citedEvidence ∨ id ∈ record.citedClaims ∨
    id ∈ record.claims.map ClaimJudgment.claimId ∨
    id ∈ record.citations.map CitationJudgment.citationId ∨
    ∃ rationale ∈ record.rationaleTexts, NamesToken rationale id

def sampleJudgeInput : JudgeInput where
  goldEvidence := []
  answerClaims := ["c1: x"]
  modelCitationIds := ["e1"]
  retrievedContext := [⟨"e1", by decide⟩]
  evidence_unique := by decide
  claims_unique := ⟨["c1"], by decide, by decide⟩
  citations := ⟨by decide, by decide⟩

/-- The rationale of the claim names the claim and its evidence. -/
def sampleJudgeRecord : JudgeRecord where
  correctness := 1
  correctnessEvidenceIds := ["e1"]
  claims := [
    { claimId := "c1"
      supported := true
      evidenceIds := ["e1"]
      rationale := "c1: e1"
      valid := by decide }]
  citations := [
    { citationId := "e1"
      claimIds := ["c1"]
      supported := true
      evidenceIds := ["e1"]
      rationale := "e1"
      valid := by decide }]
  benchmarkDefect := false
  benchmarkDefectEvidenceIds := []
  rationale := "e1"
  valid := by decide

theorem sampleJudge_rejected :
    parseJudgeResponse (fun _ => some sampleJudgeRecord) "raw"
      sampleJudgeInput = .error inventedInRationale := by
  rfl

/-- Its texts have no machine identifiers but those of the input. -/
theorem sampleJudge_token {rationale token : String}
    (listed : rationale ∈ sampleJudgeRecord.rationaleTexts)
    (named : NamesToken rationale token) : token = "e1" ∨ token = "c1" := by
  obtain ⟨machine, before, after, whole, -, -⟩ := named
  have inside : token.toList <:+: rationale.toList :=
    ⟨before, after, whole.symm⟩
  obtain ⟨tail, starts, ends⟩ := List.infix_iff_prefix_suffix.mp inside
  have parts : ∀ text ∈ sampleJudgeRecord.rationaleTexts,
      ∀ tail ∈ text.toList.tails, ∀ word ∈ tail.inits,
        isMachineId (String.ofList word) = true →
          String.ofList word = "e1" ∨ String.ofList word = "c1" := by
    decide
  have found := parts rationale listed tail ((List.mem_tails _ _).mpr ends)
    token.toList ((List.mem_inits _ _).mpr starts)
  rw [String.ofList_toList] at found
  exact found machine

/-- Every identifier of the sample is one of its input. -/
theorem sampleJudge_supplies {id : String}
    (named : sampleJudgeRecord.Names id) : sampleJudgeInput.Supplies id := by
  have known : id = "e1" ∨ id = "c1" := by
    rcases named with cited | linked | judged | resolved | token
    · left
      simpa [sampleJudgeRecord, JudgeRecord.citedEvidence,
        JudgeRecord.supportingEvidence] using cited
    · right
      simpa [sampleJudgeRecord, JudgeRecord.citedClaims] using linked
    · right
      simpa [sampleJudgeRecord] using judged
    · left
      simpa [sampleJudgeRecord] using resolved
    · obtain ⟨rationale, listed, token⟩ := token
      exact sampleJudge_token listed token
  rcases known with rfl | rfl
  · exact .inl (by decide)
  · exact .inr (.inl ⟨["c1"], by decide, by decide⟩)

/-- A rationale that names the judged claim is rejected for an invented
identifier. -/
theorem suppliedClaim_accused :
    ¬ ∀ (validate : String → Option JudgeRecord) (raw : String)
      (value : JudgeInput) (record : JudgeRecord) (error : PyException),
      validate raw = some record →
      parseJudgeResponse validate raw value = .error error →
      error ∈ [inventedEvidence, inventedClaim, inventedInRationale] →
      ∃ id, record.Names id ∧ ¬ value.Supplies id := by
  intro blames
  obtain ⟨id, named, unsupplied⟩ := blames _ "raw" sampleJudgeInput
    sampleJudgeRecord inventedInRationale rfl sampleJudge_rejected
    (by simp)
  exact unsupplied (sampleJudge_supplies named)

end RagBench
