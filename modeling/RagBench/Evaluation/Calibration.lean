import RagBench.Counters
import RagBench.Grouping
import RagBench.PyText
import RagBench.Python
import RagBench.Sorting
import RagBench.StratifiedDraw
import Mathlib.Data.Finset.Prod
import Mathlib.Data.Prod.Lex
import Mathlib.Data.String.Basic
import Mathlib.Order.BooleanAlgebra.Basic

/-!
# Human calibration

A sample of responses for human labels, balanced over systems and question
types, in which the responses with a known failure or a disagreement between
judge and human come first.
-/

namespace RagBench

open StratifiedDraw

/-- A response, as `__post_init__` accepts it. -/
structure CalibrationCandidate where
  responseId : String
  systemId : String
  questionType : String
  judgeHumanDisagreement : Bool
  knownFailure : Bool
  named : ∀ text ∈ [responseId, systemId, questionType], strip text ≠ ""
  deriving DecidableEq

namespace CalibrationCandidate

def stratum (row : CalibrationCandidate) : String ×ₗ String :=
  toLex (row.systemId, row.questionType)

/-- A disagreement or a known failure. -/
def isHard (row : CalibrationCandidate) : Bool :=
  row.judgeHumanDisagreement || row.knownFailure

end CalibrationCandidate

structure HumanCalibrationPlan where
  responses : List CalibrationCandidate
  seed : ℤ
  stratumCounts : Dict String ℕ
  requiresRealHumanLabels : Bool

/-- `f"{item.system_id}::{item.question_type}"`. -/
def stratumLabel (stratum : String ×ₗ String) : String :=
  (ofLex stratum).1 ++ "::" ++ (ofLex stratum).2

/-- `counts`, the number of responses for each label. -/
def labelCounts (rows : List CalibrationCandidate) : Dict String ℕ :=
  rows.foldl (fun counts row =>
    counts.set (stratumLabel row.stratum)
      (counts.getD (stratumLabel row.stratum) 0 + 1)) .empty

/-- `rows.sort(key=lambda row: not ...)`. -/
def hardFirst (rows : List CalibrationCandidate) :
    List CalibrationCandidate :=
  sortBy (fun row => !row.isHard) rows

/-- `strata.keys() != expected_strata`. -/
def coversStrata (candidates : List CalibrationCandidate) : Prop :=
  (candidates.map CalibrationCandidate.stratum).toFinset =
    ((candidates.map CalibrationCandidate.systemId).toFinset ×ˢ
      (candidates.map CalibrationCandidate.questionType).toFinset).map
        toLex.toEmbedding

instance (candidates : List CalibrationCandidate) :
    Decidable (coversStrata candidates) :=
  inferInstanceAs (Decidable (_ = _))

/-- Whether a disagreement or a known failure is missing. -/
def lacksKind (rows : List CalibrationCandidate) : Bool :=
  ¬ rows.any CalibrationCandidate.judgeHumanDisagreement ∨
    ¬ rows.any CalibrationCandidate.knownFailure

def mustRetain : PyException :=
  .valueError "selected sample must retain disagreements and known failures"

section Plan

variable {ρ : Type} (random : RandomSource ρ)

/-- The counts of the plan, where they are balanced. -/
def calibrationPlan (seed : ℤ) (responses : List CalibrationCandidate) :
    Except PyException HumanCalibrationPlan :=
  let counts := labelCounts responses
  let values := counts.values
  if values.foldr max 0 - values.foldr min (values.headD 0) > 1 then
    .error (.valueError
      "available strata cannot satisfy a balanced calibration sample")
  else .ok
    { responses := responses
      seed := seed
      stratumCounts := counts.sorted
      requiresRealHumanLabels := true }

def planHumanCalibration (candidates : List CalibrationCandidate)
    (sampleSize seed : ℤ) : Except PyException HumanCalibrationPlan := do
  raiseIf (¬ (100 ≤ sampleSize ∧ sampleSize ≤ 300)) (.valueError
    "human calibration sample must contain 100–300 responses")
  raiseIf (candidates.length < sampleSize)
    (.valueError "calibration pool is smaller than requested sample")
  raiseIf (¬ (candidates.map CalibrationCandidate.responseId).Nodup)
    (.valueError "calibration response IDs must be unique")
  raiseIf (lacksKind candidates) (.valueError
    "calibration pool must include disagreements and known failures")
  let strata := groupInto CalibrationCandidate.stratum .empty candidates
  raiseIf (¬ coversStrata candidates)
    (.valueError "calibration pool must cover every system/type stratum")
  let keys := sortBy id strata.keys
  let arranged := arrange (shuffleThen random hardFirst) keys
    (random.seeded seed) fun key => strata.getD key []
  let limit := sampleSize.toNat
  match drawAll popFirst limit keys limit arranged.1 [] with
  | none => .error (.valueError
      "balanced calibration sample cannot be satisfied")
  | some selected => do
      raiseIf (lacksKind selected) mustRetain
      calibrationPlan seed (random.shuffle arranged.2 selected).1

end Plan

end RagBench
