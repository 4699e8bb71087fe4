import RagBench.PyText
import RagBench.Python
import Mathlib.Data.Finset.Dedup

/-!
# Parsing the judge

The answer of the judge is read once and then held to what it was given: the
claims and citations it has to judge, and the evidence that it may name.
-/

namespace RagBench

/-! ## Identifiers in texts -/

/-- `[A-Za-z0-9_-]`. -/
def isIdCharacter (character : Char) : Bool :=
  character.isAlphanum || character == '_' || character == '-'

/-- `_is_machine_id`. -/
def isMachineId (value : String) : Bool :=
  (value.toList.head?.any Char.isAlphanum) ∧ value.toList.length ≤ 128 ∧
    value.toList.all isIdCharacter ∧ value.toList.any Char.isAlpha ∧
    value.toList.any Char.isDigit

/-- The longest parts of a text with characters of identifiers only. -/
def idRuns : List Char → List (List Char)
  | [] => [[]]
  | character :: rest =>
      match idRuns rest with
      | [] => []
      | run :: runs =>
          if isIdCharacter character then (character :: run) :: runs
          else [] :: run :: runs

/-- `_ASCII_TOKEN.findall(rationale)`. -/
def asciiTokens (rationale : String) : List String :=
  ((idRuns rationale.toList).filter fun run =>
    run.head?.any Char.isAlphanum).map String.ofList

/-- `_evidence_like_ids`. -/
def evidenceLikeIds (rationale : String) : List String :=
  (asciiTokens rationale).filter isMachineId

/-- Whether a word begins a text and ends before an identifier character. -/
def beginsWith (word text : List Char) : Bool :=
  word.isPrefixOf text &&
    !((text.drop word.length).head?.any isIdCharacter)

/-- The occurrences of a word after some character. -/
def occursAfter (word : List Char) (before : Option Char) :
    List Char → Bool
  | [] => !(before.any isIdCharacter) && beginsWith word []
  | character :: rest =>
      (!(before.any isIdCharacter) && beginsWith word (character :: rest)) ||
        occursAfter word (some character) rest

/-- `_rationale_mentions`. -/
def rationaleMentions (evidenceId rationale : String) : Bool :=
  occursAfter evidenceId.toList none rationale.toList

/-! ## The input -/

structure EvidenceUnit where
  evidenceId : String
  valid : isMachineId evidenceId = true

/-- The identifier of a claim, before its first colon. -/
def claimId (claim : String) : Except PyException String :=
  let identifier := strip
    (String.ofList (claim.toList.takeWhile fun character => character ≠ ':'))
  let rest := claim.toList.dropWhile fun character => character ≠ ':'
  if rest = [] ∨ identifier = "" ∨ strip (String.ofList rest.tail) = "" then
    .error (.valueError
      "answer claims must use '<claim_id>: <claim>' format")
  else .ok identifier

/-- `_claim_ids`. -/
def claimIds (claims : List String) : Except PyException (List String) :=
  claims.mapM claimId

/-- What the parser reads of a validated `JudgeInput`. -/
structure JudgeInput where
  goldEvidence : List EvidenceUnit
  answerClaims : List String
  modelCitationIds : List String
  retrievedContext : List EvidenceUnit
  evidence_unique :
    ((goldEvidence ++ retrievedContext).map EvidenceUnit.evidenceId).Nodup
  claims_unique : ∃ ids, claimIds answerClaims = .ok ids ∧ ids.Nodup
  citations : (∀ id ∈ modelCitationIds, strip id ≠ "") ∧
    modelCitationIds.Nodup

/-! ## The answer -/

structure ClaimJudgment where
  claimId : String
  supported : Bool
  evidenceIds : List String
  rationale : String
  valid : claimId ≠ "" ∧ rationale ≠ ""

structure CitationJudgment where
  citationId : String
  claimIds : List String
  supported : Bool
  evidenceIds : List String
  rationale : String
  valid : citationId ≠ "" ∧ rationale ≠ ""

structure JudgeRecord where
  correctness : ℚ
  correctnessEvidenceIds : List String
  claims : List ClaimJudgment
  citations : List CitationJudgment
  benchmarkDefect : Bool
  benchmarkDefectEvidenceIds : List String
  rationale : String
  valid : 0 ≤ correctness ∧ correctness ≤ 1 ∧ rationale ≠ ""

namespace JudgeRecord

variable (record : JudgeRecord)

/-- The evidence that supports claims and citations. -/
def supportingEvidence : List String :=
  (record.claims.flatMap ClaimJudgment.evidenceIds) ++
    record.citations.flatMap CitationJudgment.evidenceIds

/-- `cited_evidence`. -/
def citedEvidence : List String :=
  record.correctnessEvidenceIds ++ record.benchmarkDefectEvidenceIds ++
    record.supportingEvidence

/-- `cited_claims`. -/
def citedClaims : List String :=
  record.citations.flatMap CitationJudgment.claimIds

/-- `rationale_references`. -/
def rationaleReferences : List (List String × String) :=
  (record.correctnessEvidenceIds, record.rationale) ::
    (record.benchmarkDefectEvidenceIds, record.rationale) ::
    (record.claims.map (fun claim => (claim.evidenceIds, claim.rationale)) ++
      record.citations.map fun citation =>
        (citation.evidenceIds, citation.rationale))

/-- `rationale_texts`. -/
def rationaleTexts : List String :=
  record.rationale :: (record.claims.map ClaimJudgment.rationale ++
    record.citations.map CitationJudgment.rationale)

end JudgeRecord

/-- `JudgeParseError(ValueError)`. -/
def judgeParseError (message : String) : PyException :=
  ⟨.derived "JudgeParseError" .valueError, message⟩

def inventedEvidence : PyException :=
  judgeParseError "judge invented an evidence ID"

def inventedClaim : PyException :=
  judgeParseError "judge invented a claim ID"

def inventedInRationale : PyException :=
  judgeParseError "judge rationale contains an invented evidence ID"

/-- The identifiers are returned exactly once each. -/
def coversOnce (returned expected : List String) : Prop :=
  returned.Nodup ∧ returned.toFinset = expected.toFinset

instance (returned expected : List String) :
    Decidable (coversOnce returned expected) :=
  inferInstanceAs (Decidable (_ ∧ _))

/-- `set(ids)` of the evidence of both kinds. -/
def JudgeInput.allowedEvidence (value : JudgeInput) : List String :=
  (value.goldEvidence ++ value.retrievedContext).map EvidenceUnit.evidenceId

def JudgeInput.retrievedEvidence (value : JudgeInput) : List String :=
  value.retrievedContext.map EvidenceUnit.evidenceId

/-- `JudgeRecord.model_validate_json(raw)`, where it succeeds, is given. -/
def parseJudgeResponse (validate : String → Option JudgeRecord)
    (raw : String) (value : JudgeInput) : Except PyException JudgeRecord :=
  match validate raw with
  | none => .error
      (judgeParseError "judge response is not strict rubric JSON")
  | some record => do
      let expectedClaimIds ← claimIds value.answerClaims
      raiseIf (¬ coversOnce (record.claims.map ClaimJudgment.claimId)
          expectedClaimIds)
        (judgeParseError
          "judge must evaluate every supplied claim exactly once")
      raiseIf (¬ coversOnce
          (record.citations.map CitationJudgment.citationId)
          value.modelCitationIds)
        (judgeParseError
          "judge must evaluate every supplied citation exactly once")
      raiseIf (record.citedEvidence.any fun id => id ∉ value.allowedEvidence)
        inventedEvidence
      raiseIf (record.citedClaims.any fun id => id ∉ expectedClaimIds)
        inventedClaim
      raiseIf (record.supportingEvidence.any fun id =>
          id ∉ value.retrievedEvidence)
        (judgeParseError
          "faithfulness and citation support require retrieved context")
      raiseIf (record.citations.any fun citation =>
          citation.supported ∧ citation.claimIds = [])
        (judgeParseError
          "supported citation must link at least one supplied claim")
      raiseIf (record.citations.any fun citation =>
          citation.supported ∧
            (citation.citationId ∉ value.retrievedEvidence ∨
              citation.citationId ∉ citation.evidenceIds))
        (judgeParseError
          "supported citation must resolve its own retrieved citation ID")
      raiseIf ((record.claims.any fun claim =>
            claim.supported ∧ claim.evidenceIds = []) ∨
          record.citations.any fun citation =>
            citation.supported ∧ citation.evidenceIds = [])
        (judgeParseError
          "supported judge decisions require cited supplied evidence")
      raiseIf (0 < record.correctness ∧ record.correctnessEvidenceIds = [])
        (judgeParseError
          "positive correctness requires cited supplied evidence")
      raiseIf (record.benchmarkDefect ∧
          record.benchmarkDefectEvidenceIds = [])
        (judgeParseError "benchmark defect requires cited supplied evidence")
      raiseIf (record.rationaleReferences.any fun (evidenceIds, rationale) =>
          ¬ evidenceIds.all fun id => rationaleMentions id rationale)
        (judgeParseError
          "each cited evidence ID must appear in its rationale")
      raiseIf (record.rationaleTexts.any fun rationale =>
          (evidenceLikeIds rationale).any fun id =>
            id ∉ value.allowedEvidence)
        inventedInRationale
      raiseIf ((record.citedEvidence.any fun id => strip id = "") ∨
          ¬ (record.correctnessEvidenceIds.Nodup ∧
            record.benchmarkDefectEvidenceIds.Nodup ∧
            (record.claims.all fun claim => claim.evidenceIds.Nodup) ∧
            record.citations.all fun citation =>
              citation.evidenceIds.Nodup))
        (judgeParseError
          "judge evidence references must be nonblank and unique")
      return record

end RagBench
