import RagBench.CappedSelection
import RagBench.Counters
import RagBench.Experiments.RetrievalGrid
import RagBench.Sorting
import Mathlib.Data.Prod.Lex
import Mathlib.Data.Finset.Card

/-!
# The retrieval shortlist

The outcomes at `k = 5` are ranked by quality, and a greedy pass takes the best
ones under a cap for each parse mode and for each retriever.
-/

namespace RagBench

/-- A finite outcome of a screen. -/
@[ext] structure ScreeningOutcome where
  config : RetrievalExperimentConfig
  recallAt5 : ℚ
  mrr : ℚ
  meanLatencyMs : ℚ
  recall_bounds : 0 ≤ recallAt5 ∧ recallAt5 ≤ 1
  mrr_bounds : 0 ≤ mrr ∧ mrr ≤ 1
  latency_nonneg : 0 ≤ meanLatencyMs

instance : DecidableEq ScreeningOutcome := fun _ _ =>
  decidable_of_iff' _ ScreeningOutcome.ext_iff

abbrev ScreeningFamily := ParseMode × String × RetrieverName

def ScreeningOutcome.family (outcome : ScreeningOutcome) : ScreeningFamily :=
  (outcome.config.parseMode, outcome.config.chunkStrategy,
    outcome.config.retriever)

/-- An outcome with the semantic hash of its configuration. -/
structure HashedOutcome where
  outcome : ScreeningOutcome
  semanticHash : String
  deriving DecidableEq

namespace HashedOutcome

def family (row : HashedOutcome) : ScreeningFamily :=
  row.outcome.family

/-- `_quality_key`. -/
def qualityKey (row : HashedOutcome) : ℚ ×ₗ ℚ ×ₗ ℚ ×ₗ String :=
  toLex (-row.outcome.recallAt5, toLex (-row.outcome.mrr,
    toLex (row.outcome.meanLatencyMs, row.semanticHash)))

end HashedOutcome

section Checks

variable (platform : Platform)

def hashOutcome (outcome : ScreeningOutcome) :
    Except PyException HashedOutcome := do
  let semanticHash ← outcome.config.semanticHash platform
  return { outcome, semanticHash }

/-- The outcomes with their semantic hashes, which are distinct. -/
def hashOutcomes (outcomes : List ScreeningOutcome) :
    Except PyException (List HashedOutcome) := do
  let rows ← outcomes.mapM (hashOutcome platform)
  raiseIf (¬ (rows.map HashedOutcome.semanticHash).Nodup) (.valueError
    "duplicate semantic screening outcomes are not allowed")
  return rows

/-- `artifact_bindings`. -/
def artifactBindings (outcomes : List ScreeningOutcome) :
    Dict (ParseMode × String) (Finset (String × String)) :=
  outcomes.foldl (fun bindings row =>
    let key := (row.config.parseMode, row.config.chunkStrategy)
    bindings.set key (insert
      (row.config.chunkSnapshotId, row.config.embeddingSnapshotId)
      (bindings.getD key ∅))) .empty

/-- The values of `parse_bindings` for a mode. -/
def parseBindings (outcomes : List ScreeningOutcome) (mode : ParseMode) :
    Finset String :=
  ((outcomes.filter fun row => row.config.parseMode = mode).map
    fun row => row.config.parseSnapshotId).toFinset

/-- The checks of `require_complete_grid`. -/
def checkCompleteGrid (outcomes : List ScreeningOutcome) :
    Except PyException Unit := do
  raiseIf (outcomes.length ≠ 126) (.valueError
    "shortlist selection requires the complete 126-configuration grid")
  raiseIf ((outcomes.map fun row => row.config.axes).toFinset ≠
      gridAxes.toFinset) (.valueError
    "screening outcomes do not cover the exact core configuration grid")
  let artifacts := artifactBindings outcomes
  raiseIf ((∃ mode ∈ parseModes, (parseBindings outcomes mode).card ≠ 1) ∨
      artifacts.entries.length ≠ 14 ∨
      ∃ values ∈ artifacts.values, values.card ≠ 1)
    (.valueError "core grid snapshot bindings are inconsistent")

/-- What all configurations of a comparison share; the metric version is
always the same. -/
def ScreeningOutcome.cohort (outcome : ScreeningOutcome) :
    String × String × String × ℤ :=
  (outcome.config.corpusSnapshotId, outcome.config.questionSnapshotId,
    outcome.config.codeCommit, outcome.config.randomSeed)

end Checks

/-! ## The greedy pass -/

/-- `best_by_family`. -/
def bestByFamily (pool : List HashedOutcome) :
    Dict ScreeningFamily HashedOutcome :=
  (sortBy HashedOutcome.qualityKey pool).foldl (fun best row =>
    if (best.get? row.family).isSome then best
    else best.set row.family row) .empty

/-- What the loop has selected, with its two counters. -/
structure ShortlistState where
  parseCounts : Dict ParseMode ℕ
  retrieverCounts : Dict RetrieverName ℕ
  selected : List HashedOutcome

def ShortlistState.start : ShortlistState :=
  ⟨.empty, .empty, []⟩

/-- The state after one more outcome is selected. -/
def ShortlistState.add (state : ShortlistState) (row : HashedOutcome) :
    ShortlistState :=
  let mode := row.outcome.config.parseMode
  let retriever := row.outcome.config.retriever
  { parseCounts := state.parseCounts.set mode
      (state.parseCounts.getD mode 0 + 1)
    retrieverCounts := state.retrieverCounts.set retriever
      (state.retrieverCounts.getD retriever 0 + 1)
    selected := state.selected ++ [row] }

/-- The loop over the ranked families. -/
def diversify (cap size : ℕ) :
    List HashedOutcome → ShortlistState →
      Except PyException (List HashedOutcome)
  | [], _ => .error (.valueError ("outcomes cannot satisfy the predeclared " ++
      "shortlist diversity constraints"))
  | row :: rest, state =>
      if cap ≤ state.parseCounts.getD row.outcome.config.parseMode 0 then
        diversify cap size rest state
      else if cap ≤
          state.retrieverCounts.getD row.outcome.config.retriever 0 then
        diversify cap size rest state
      else
        let state := state.add row
        if state.selected.length = size then .ok state.selected
        else diversify cap size rest state

/-- `select_retrieval_shortlist`. -/
def selectRetrievalShortlist (platform : Platform)
    (outcomes : List ScreeningOutcome) (size : ℤ)
    (enforceCoreDiversity requireCompleteGrid : Bool) :
    Except PyException (List ScreeningOutcome) := do
  raiseIf (size ≤ 0)
    (.valueError "shortlist size must be a positive integer")
  let rows ← hashOutcomes platform outcomes
  if requireCompleteGrid then checkCompleteGrid outcomes
  raiseIf ((outcomes.map ScreeningOutcome.cohort).toFinset.card ≠ 1)
    (.valueError
      "screening outcomes must belong to one immutable comparison cohort")
  let pool := if requireCompleteGrid then
    rows.filter fun row => row.outcome.config.topK = .five else rows
  let ranked := sortBy HashedOutcome.qualityKey (bestByFamily pool).values
  if ¬ enforceCoreDiversity then
    raiseIf ((ranked.length : ℤ) < size) (.valueError
      "not enough distinct screening families for shortlist")
    return (ranked.take size.toNat).map HashedOutcome.outcome
  else
    let cap := (size.toNat + 1) / 2
    let selected ← diversify cap size.toNat ranked .start
    return selected.map HashedOutcome.outcome

end RagBench
