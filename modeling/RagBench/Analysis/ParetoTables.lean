import Mathlib.Order.Preorder.Finite
import RagBench.Analysis.SampleFairness

/-!
# The Pareto table

An experiment is on the frontier when no other one is at least as good and at
most as expensive, and better in one of the two.  The costs are collected by
public ids, which experiments of one configuration share.
-/

namespace RagBench

/-- What the tables are exported with. -/
structure ExportRequest where
  publicSalt : String
  failureSampleSize : ℤ := 50
  vatMultiplier : ℚ := 11 / 10
  consoleGrossUsd : Option ℚ := none
  salt_filled : strip publicSalt ≠ ""
  size_range : 50 ≤ failureSampleSize ∧ failureSampleSize ≤ 100
  vat_ge_one : 1 ≤ vatMultiplier
  console_nonneg : ∀ console ∈ consoleGrossUsd, 0 ≤ console

structure LeaderboardRow where
  publicConfigId : String
  questionCount : ℕ
  meanCorrectness : ℚ
  deriving DecidableEq

/-- An experiment with its quality and its cost. -/
structure PricedRow where
  publicConfigId : String
  quality : ℚ
  grossCostUsd : ℚ

structure ParetoRow extends PricedRow where
  pareto : Bool

structure MarginalRow where
  publicConfigId : String
  baselinePublicConfigId : Option String
  grossCostUsd : ℚ
  quality : ℚ
  deltaCostUsd : Option ℚ
  deltaQualityPoints : Option ℚ
  marginalCostPerQualityPointUsd : Option ℚ

section Tables

variable (context : Decimal.Context)

/-- `_mean`. -/
def decimalMean (values : List ℚ) : Except PyException ℚ :=
  if values = [] then .error (.valueError "cannot aggregate an empty cohort")
  else quantizeHalfUp context
    (context.fix (decimalSum context values / values.length))

/-- `cost_by_config`. -/
def costByConfig (rows : List CostRow) : Dict String ℚ :=
  rows.foldl (fun costs row => costs.set row.publicConfigId
    (context.fix (costs.getD row.publicConfigId 0 + row.grossCostUsd))) .empty

/-- `_is_pareto`. -/
def isPareto (publicId : String) (quality cost : ℚ)
    (leaderboard : List LeaderboardRow) (costs : Dict String ℚ) : Bool :=
  leaderboard.all fun candidate =>
    let candidateQuality := candidate.meanCorrectness
    let candidateCost := costs.getD candidate.publicConfigId 0
    candidate.publicConfigId = publicId ∨
      ¬(quality ≤ candidateQuality ∧ candidateCost ≤ cost ∧
        (quality < candidateQuality ∨ candidateCost < cost))

def pricedRow (costs : Dict String ℚ) (row : LeaderboardRow) : PricedRow :=
  { publicConfigId := row.publicConfigId
    quality := row.meanCorrectness
    grossCostUsd := costs.getD row.publicConfigId 0 }

def paretoRow (leaderboard : List LeaderboardRow) (costs : Dict String ℚ)
    (row : LeaderboardRow) : ParetoRow :=
  let priced := pricedRow costs row
  { toPricedRow := priced
    pareto := isPareto priced.publicConfigId priced.quality
      priced.grossCostUsd leaderboard costs }

/-- `dividend / divisor`. -/
def decimalDivide (dividend divisor : ℚ) : Except PyException ℚ :=
  if divisor = 0 then .error
    ⟨.derived "DivisionByZero" .arithmeticError,
      "[<class 'decimal.DivisionByZero'>]"⟩
  else .ok (context.fix (dividend / divisor))

/-- `marginal_cost_per_quality_point_usd`. -/
def marginalCost (deltaQuality deltaCost : ℚ) :
    Except PyException (Option ℚ) :=
  if deltaQuality ≤ 0 then .ok none
  else do
    let ratio ← decimalDivide context deltaCost
      (context.fix (deltaQuality * 100))
    let cost ← quantizeHalfUp context ratio
    return some cost

/-- One row of the loop, after its baseline. -/
def marginalRow (baseline : Option ParetoRow) (row : ParetoRow) :
    Except PyException MarginalRow :=
  match baseline with
  | none => .ok
      { publicConfigId := row.publicConfigId
        baselinePublicConfigId := none
        grossCostUsd := row.grossCostUsd
        quality := row.quality
        deltaCostUsd := none
        deltaQualityPoints := none
        marginalCostPerQualityPointUsd := none }
  | some before => do
      let deltaQuality := context.fix (row.quality - before.quality)
      let deltaCost := context.fix (row.grossCostUsd - before.grossCostUsd)
      let cost ← marginalCost context deltaQuality deltaCost
      return {
        publicConfigId := row.publicConfigId
        baselinePublicConfigId := some before.publicConfigId
        grossCostUsd := row.grossCostUsd
        quality := row.quality
        deltaCostUsd := some deltaCost
        deltaQualityPoints := some (context.fix (deltaQuality * 100))
        marginalCostPerQualityPointUsd := cost }

/-- The loop over the frontier. -/
def marginalFrom : Option ParetoRow → List ParetoRow →
    Except PyException (List MarginalRow)
  | _, [] => .ok []
  | baseline, row :: rest => do
      let first ← marginalRow context baseline row
      let others ← marginalFrom (some row) rest
      return first :: others

/-- The flagged rows by quality, then by cost. -/
def frontierRows (rows : List ParetoRow) : List ParetoRow :=
  sortBy (fun row => toLex (row.quality, row.grossCostUsd))
    (rows.filter ParetoRow.pareto)

/-- `_marginal_rows`. -/
def marginalRows (rows : List ParetoRow) :
    Except PyException (List MarginalRow) :=
  marginalFrom context none (frontierRows rows)

end Tables

section Export

variable (platform : Platform) (bundle : AnalysisBundle)
  (request : ExportRequest)

def leaderboardRow (config : AnalysisConfig) :
    Except PyException LeaderboardRow := do
  let rows := (groupInto AnalysisResult.experimentId .empty
    bundle.results).getD config.experimentId []
  let publicId ← publicConfigId platform request.publicSalt config.configHash
  let correctness ← decimalMean platform.context
    (rows.map AnalysisResult.correctness)
  return {
    publicConfigId := publicId
    questionCount := rows.length
    meanCorrectness := correctness }

def leaderboard : Except PyException (List LeaderboardRow) :=
  (sortBy AnalysisConfig.configHash bundle.configs).mapM
    (leaderboardRow platform bundle request)

/-- The costs of the public ids. -/
def grossCosts : Except PyException (Dict String ℚ) := do
  let (rows, _) ← buildCostRows platform bundle request.vatMultiplier
    request.consoleGrossUsd request.publicSalt
  return costByConfig platform.context rows

/-- The tables `pareto_frontier` and `marginal_cost_quality`. -/
def paretoTables : Except PyException (List ParetoRow × List MarginalRow) := do
  let board ← leaderboard platform bundle request
  let _ ← planFailureSample platform request.publicSalt bundle
    request.failureSampleSize
  let costs ← grossCosts platform bundle request
  let pareto := board.map (paretoRow board costs)
  let marginal ← marginalRows platform.context pareto
  return (pareto, marginal)

/-- The experiments with what the tables compare. -/
def pricedRows : Except PyException (List PricedRow) := do
  let board ← leaderboard platform bundle request
  let costs ← grossCosts platform bundle request
  return board.map (pricedRow costs)

end Export

/-! ## Dominance -/

/-- At least as good and at most as expensive, and better in one of the two. -/
def PricedRow.Dominates (other row : PricedRow) : Prop :=
  row.quality ≤ other.quality ∧ other.grossCostUsd ≤ row.grossCostUsd ∧
    (row.quality < other.quality ∨ other.grossCostUsd < row.grossCostUsd)

/-- The tables are those of the Pareto frontier. -/
structure IsFrontier (pareto : List ParetoRow) (marginal : List MarginalRow) :
    Prop where
  flagged : ∀ row ∈ pareto, row.pareto = true ↔
    ¬∃ other ∈ pareto, other.toPricedRow.Dominates row.toPricedRow
  covered : ∀ row ∈ pareto, row.pareto = false →
    ∃ other ∈ pareto, other.pareto = true ∧
      other.toPricedRow.Dominates row.toPricedRow
  ordered : marginal.Pairwise fun early late =>
    early.quality ≤ late.quality ∧ early.grossCostUsd ≤ late.grossCostUsd
  nonneg : ∀ row ∈ marginal, ∀ cost ∈ row.marginalCostPerQualityPointUsd,
    0 ≤ cost

/-- An experiment that is worse than another one of its public id is dominated
by one of a different public id. -/
def TwinsCovered (platform : Platform) (bundle : AnalysisBundle)
    (request : ExportRequest) : Prop :=
  ∀ rows, pricedRows platform bundle request = .ok rows →
    ∀ row ∈ rows, ∀ twin ∈ rows, twin.publicConfigId = row.publicConfigId →
      row.quality < twin.quality → ∃ other ∈ rows,
        other.publicConfigId ≠ row.publicConfigId ∧ other.Dominates row

/-- Quality up, cost down. -/
def PricedRow.point (row : PricedRow) : ℚ × ℚᵒᵈ :=
  (row.quality, OrderDual.toDual row.grossCostUsd)

theorem PricedRow.dominates_iff {other row : PricedRow} :
    other.Dominates row ↔ row.point < other.point := by
  rw [Prod.lt_iff]
  change _ ↔ row.quality < other.quality ∧
    other.grossCostUsd ≤ row.grossCostUsd ∨
      row.quality ≤ other.quality ∧ other.grossCostUsd < row.grossCostUsd
  constructor
  · rintro ⟨quality, cost, better | cheaper⟩
    · exact .inl ⟨better, cost⟩
    · exact .inr ⟨quality, cheaper⟩
  · rintro (⟨better, cost⟩ | ⟨quality, cheaper⟩)
    · exact ⟨better.le, cost, .inl better⟩
    · exact ⟨quality, cheaper.le, .inr cheaper⟩

/-- Above each dominated row there is one that no row dominates. -/
theorem PricedRow.exists_undominated {rows : List PricedRow}
    {row other : PricedRow}
    (member : other ∈ rows) (dominates : other.Dominates row) :
    ∃ best ∈ rows, best.Dominates row ∧
      ∀ third ∈ rows, ¬third.Dominates best := by
  have listed : other.point ∈ (rows.map PricedRow.point).toFinset :=
    List.mem_toFinset.mpr (List.mem_map_of_mem member)
  obtain ⟨point, above, maximal⟩ := Finset.exists_le_maximal _ listed
  obtain ⟨best, inside, rfl⟩ :=
    List.mem_map.mp (List.mem_toFinset.mp maximal.prop)
  refine ⟨best, inside, dominates_iff.mpr
    ((dominates_iff.mp dominates).trans_le above), fun third known higher => ?_⟩
  exact maximal.not_gt (List.mem_toFinset.mpr (List.mem_map_of_mem known))
    (dominates_iff.mp higher)

/-! ## The flags -/

section Flags

variable {platform : Platform} {bundle : AnalysisBundle}
  {request : ExportRequest} {board : List LeaderboardRow}
  {costs : Dict String ℚ}

/-- A row is flagged when no row of a different public id dominates it. -/
theorem paretoRow_flag (row : LeaderboardRow) :
    (paretoRow board costs row).pareto = true ↔
      ∀ candidate ∈ board, candidate.publicConfigId = row.publicConfigId ∨
        ¬(pricedRow costs candidate).Dominates (pricedRow costs row) := by
  rw [paretoRow, isPareto, List.all_eq_true]
  simp only [decide_eq_true_eq]
  rfl

/-- Rows of one public id have one cost. -/
private theorem better_of_dominates {row other : LeaderboardRow}
    (same : other.publicConfigId = row.publicConfigId)
    (dominates : (pricedRow costs other).Dominates (pricedRow costs row)) :
    (pricedRow costs row).quality < (pricedRow costs other).quality := by
  obtain ⟨-, -, better | cheaper⟩ := dominates
  · exact better
  · simp only [pricedRow, same, lt_irrefl] at cheaper

theorem undominated_flagged {row : LeaderboardRow}
    (best : ∀ other ∈ board,
      ¬(pricedRow costs other).Dominates (pricedRow costs row)) :
    (paretoRow board costs row).pareto = true :=
  (paretoRow_flag row).mpr fun candidate member =>
    .inr (best candidate member)

/-- Each row without a flag is dominated by a flagged one. -/
theorem covered_of_unflagged {row : LeaderboardRow}
    (unflagged : (paretoRow board costs row).pareto = false) :
    ∃ other ∈ board, (paretoRow board costs other).pareto = true ∧
      (pricedRow costs other).Dominates (pricedRow costs row) := by
  have dominated := mt (@paretoRow_flag board costs row).mpr
    (by rw [unflagged]; exact Bool.false_ne_true)
  push Not at dominated
  obtain ⟨candidate, member, -, dominates⟩ := dominated
  obtain ⟨best, listed, better, top⟩ := PricedRow.exists_undominated
    (List.mem_map_of_mem member) dominates
  obtain ⟨other, inside, rfl⟩ := List.mem_map.mp listed
  refine ⟨other, inside, undominated_flagged fun third known => ?_, better⟩
  exact top _ (List.mem_map_of_mem known)

/-- A flagged row is not above the cost of a better one. -/
theorem flagged_cost_le {row other : LeaderboardRow} (member : other ∈ board)
    (flagged : (paretoRow board costs row).pareto = true)
    (better : row.meanCorrectness < other.meanCorrectness) :
    (pricedRow costs row).grossCostUsd ≤
      (pricedRow costs other).grossCostUsd := by
  rcases (paretoRow_flag row).mp flagged other member with same | undominated
  · simp only [pricedRow, same, le_refl]
  · by_contra cheaper
    exact undominated ⟨better.le, (not_le.mp cheaper).le, .inl better⟩

end Flags

/-! ## The marginal costs -/

section Marginal

variable {context : Decimal.Context}

theorem quantizeHalfUp_nonneg {value result : ℚ} (nonneg : 0 ≤ value)
    (success : quantizeHalfUp context value = .ok result) : 0 ≤ result := by
  rw [quantizeHalfUp] at success
  split_ifs at success
  obtain rfl := Except.ok.inj success
  have scaled : 0 ≤ value * 10 ^ 6 := by positivity
  have coefficient : 0 ≤ halfUp (value * 10 ^ 6) := by
    rw [halfUp, if_pos scaled]
    exact Int.floor_nonneg.mpr (by linarith)
  exact div_nonneg (by exact_mod_cast coefficient) (by positivity)

theorem marginalCost_nonneg {deltaQuality deltaCost : ℚ}
    (dearer : 0 ≤ deltaCost) {result : Option ℚ}
    (built : marginalCost context deltaQuality deltaCost = .ok result) :
    ∀ cost ∈ result, 0 ≤ cost := by
  intro cost member
  rw [marginalCost] at built
  split_ifs at built with worse
  · cases built
    cases member
  · obtain ⟨ratio, divided, built⟩ := bind_eq_ok.mp built
    obtain ⟨rounded, quantized, built⟩ := bind_eq_ok.mp built
    cases built
    cases member
    rw [decimalDivide] at divided
    split_ifs at divided
    obtain rfl := Except.ok.inj divided
    have points : 0 ≤ context.fix (deltaQuality * 100) :=
      context.fix_nonneg (by linarith)
    exact quantizeHalfUp_nonneg
      (context.fix_nonneg (div_nonneg dearer points)) quantized

/-- A row keeps its quality and its cost, and is not cheaper than its
baseline. -/
theorem marginalRow_ok {baseline : Option ParetoRow} {row : ParetoRow}
    {result : MarginalRow}
    (built : marginalRow context baseline row = .ok result) :
    result.quality = row.quality ∧ result.grossCostUsd = row.grossCostUsd ∧
      ((∀ before ∈ baseline, before.grossCostUsd ≤ row.grossCostUsd) →
        ∀ cost ∈ result.marginalCostPerQualityPointUsd, 0 ≤ cost) := by
  cases baseline with
  | none =>
      cases built
      exact ⟨rfl, rfl, fun _ cost member => by cases member⟩
  | some before =>
      obtain ⟨cost, divided, built⟩ := bind_eq_ok.mp built
      cases built
      refine ⟨rfl, rfl, fun dearer => marginalCost_nonneg ?_ divided⟩
      exact context.fix_nonneg (sub_nonneg.mpr (dearer before rfl))

/-- What the loop reads from a row. -/
private theorem marginalFrom_map {baseline : Option ParetoRow}
    {rows : List ParetoRow} {marginal : List MarginalRow}
    (built : marginalFrom context baseline rows = .ok marginal) :
    marginal.map (fun row => (row.quality, row.grossCostUsd)) =
      rows.map fun row => (row.quality, row.grossCostUsd) := by
  induction rows generalizing baseline marginal with
  | nil =>
      cases built
      rfl
  | cons row rows induction =>
      obtain ⟨first, here, built⟩ := bind_eq_ok.mp built
      obtain ⟨others, there, built⟩ := bind_eq_ok.mp built
      cases built
      obtain ⟨quality, cost, -⟩ := marginalRow_ok here
      rw [List.map_cons, List.map_cons, quality, cost, induction there]

private theorem marginalFrom_nonneg {baseline : Option ParetoRow}
    {rows : List ParetoRow} {marginal : List MarginalRow}
    (built : marginalFrom context baseline rows = .ok marginal)
    (start : ∀ before ∈ baseline, ∀ row ∈ rows,
      before.grossCostUsd ≤ row.grossCostUsd)
    (rises : rows.Pairwise fun early late =>
      early.grossCostUsd ≤ late.grossCostUsd) :
    ∀ row ∈ marginal, ∀ cost ∈ row.marginalCostPerQualityPointUsd,
      0 ≤ cost := by
  induction rows generalizing baseline marginal with
  | nil =>
      cases built
      exact List.forall_mem_nil _
  | cons row rows induction =>
      obtain ⟨first, here, built⟩ := bind_eq_ok.mp built
      obtain ⟨others, there, built⟩ := bind_eq_ok.mp built
      cases built
      obtain ⟨above, rises⟩ := List.pairwise_cons.mp rises
      refine List.forall_mem_cons.mpr ⟨(marginalRow_ok here).2.2
        fun before member => start before member row List.mem_cons_self,
        induction there ?_ rises⟩
      rintro before ⟨⟩
      exact above

end Marginal

/-! ## The tables -/

section Frontier

variable {platform : Platform} {bundle : AnalysisBundle}
  {request : ExportRequest} {board : List LeaderboardRow}
  {costs : Dict String ℚ}

/-- On the frontier better rows are not cheaper. -/
theorem frontierRows_rise :
    (frontierRows (board.map (paretoRow board costs))).Pairwise
      fun early late => early.quality ≤ late.quality ∧
        early.grossCostUsd ≤ late.grossCostUsd := by
  have known : ∀ row ∈ frontierRows (board.map (paretoRow board costs)),
      ∃ entry ∈ board, paretoRow board costs entry = row ∧
        row.pareto = true := by
    intro row member
    rw [frontierRows, (sortBy_perm _ _).mem_iff] at member
    obtain ⟨listed, flagged⟩ := List.mem_filter.mp member
    obtain ⟨entry, inside, same⟩ := List.mem_map.mp listed
    exact ⟨entry, inside, same, flagged⟩
  refine (sortBy_pairwise _ _).imp_of_mem fun {early late} member member' le => ?_
  obtain ⟨entry, -, rfl, flagged⟩ := known early member
  obtain ⟨entry', inside, rfl, -⟩ := known late member'
  rcases Prod.Lex.le_iff.mp le with less | ⟨same, before⟩
  · exact ⟨less.le, flagged_cost_le inside flagged less⟩
  · exact ⟨same.le, before⟩

/-- What the export computes. -/
theorem paretoTables_ok {pareto : List ParetoRow} {marginal : List MarginalRow}
    (built : paretoTables platform bundle request = .ok (pareto, marginal)) :
    ∃ (board : List LeaderboardRow) (costs : Dict String ℚ),
      pareto = board.map (paretoRow board costs) ∧
      pricedRows platform bundle request =
        .ok (board.map (pricedRow costs)) ∧
      marginalRows platform.context pareto = .ok marginal := by
  obtain ⟨board, ranked, built⟩ := bind_eq_ok.mp built
  obtain ⟨sample, -, built⟩ := bind_eq_ok.mp built
  obtain ⟨costs, priced, built⟩ := bind_eq_ok.mp built
  obtain ⟨rows, differences, built⟩ := bind_eq_ok.mp built
  cases built
  refine ⟨board, costs, rfl, ?_, differences⟩
  rw [pricedRows, ranked, priced]
  rfl

/-- The tables are those of the frontier just in case an experiment that is
worse than its twin is dominated by another one. -/
theorem pareto_table_frontier_iff {pareto : List ParetoRow}
    {marginal : List MarginalRow}
    (built : paretoTables platform bundle request = .ok (pareto, marginal)) :
    IsFrontier pareto marginal ↔ TwinsCovered platform bundle request := by
  obtain ⟨board, costs, rfl, priced, differences⟩ := paretoTables_ok built
  constructor
  · intro frontier rows found row member twin member' same better
    rw [priced] at found
    cases found
    obtain ⟨entry, inside, rfl⟩ := List.mem_map.mp member
    obtain ⟨entry', inside', rfl⟩ := List.mem_map.mp member'
    have equal : (pricedRow costs entry').grossCostUsd =
        (pricedRow costs entry).grossCostUsd :=
      congrArg (fun id => costs.getD id 0) same
    have dominated := (frontier.flagged _ (List.mem_map_of_mem inside)).not.mpr
      (not_not.mpr ⟨_, List.mem_map_of_mem inside', better.le, equal.le,
        .inl better⟩)
    have others := mt (paretoRow_flag entry).mpr dominated
    push Not at others
    obtain ⟨candidate, known, different, dominates⟩ := others
    exact ⟨_, List.mem_map_of_mem known, different, dominates⟩
  · intro covered
    have rises := @frontierRows_rise board costs
    refine ⟨List.forall_mem_map.mpr fun entry inside => ⟨?_, ?_⟩,
      List.forall_mem_map.mpr fun entry inside unflagged => ?_, ?_,
      marginalFrom_nonneg differences (by simp) (rises.imp And.right)⟩
    · rintro flagged ⟨other, member, dominates⟩
      obtain ⟨entry', inside', rfl⟩ := List.mem_map.mp member
      have undominated := (paretoRow_flag entry).mp flagged
      rcases undominated entry' inside' with same | apart
      · obtain ⟨third, listed, different, above⟩ := covered _ priced _
          (List.mem_map_of_mem inside) _ (List.mem_map_of_mem inside') same
          (better_of_dominates same dominates)
        obtain ⟨entry'', inside'', rfl⟩ := List.mem_map.mp listed
        exact (undominated entry'' inside'').elim different fun no => no above
      · exact apart dominates
    · intro best
      exact undominated_flagged fun other known dominates =>
        best ⟨_, List.mem_map_of_mem known, dominates⟩
    · obtain ⟨other, known, flagged, dominates⟩ := covered_of_unflagged unflagged
      exact ⟨_, List.mem_map_of_mem known, flagged, dominates⟩
    · have same := marginalFrom_map differences
      have pairs : ((frontierRows (board.map (paretoRow board costs))).map
          fun row => (row.quality, row.grossCostUsd)).Pairwise
            fun early late => early.1 ≤ late.1 ∧ early.2 ≤ late.2 :=
        List.pairwise_map.mpr rises
      rw [← same, List.pairwise_map] at pairs
      exact pairs

end Frontier

/-! ## Two experiments of one configuration -/

/-- A second experiment of the configuration. -/
def twinConfig : AnalysisConfig :=
  { experimentId := digestOf 0 ++ "-2"
    configHash := digestOf 0
    hashed := sampleConfig.hashed
    bound := by decide +kernel }

/-- The one question, answered right or wrong. -/
def gradedResult (config : AnalysisConfig) (right : Bool) : AnalysisResult :=
  { numberedResult 0 with
    experimentId := config.experimentId
    correctness := if right then 1 else 0
    correctness_unit := by cases right <;> norm_num }

theorem twinResults_unique (right : Bool) :
    ([gradedResult twinConfig right, gradedResult sampleConfig true].map
      fun row => (row.experimentId, row.questionId)).Nodup := by
  simp only [List.map_cons, List.map_nil, List.nodup_cons,
    List.mem_singleton, List.not_mem_nil, List.nodup_nil, not_false_eq_true,
    and_true, gradedResult]
  decide +kernel

/-- Both experiments have one question; the second one is answered right. -/
def twinBundle (right : Bool) : AnalysisBundle :=
  { configs := [twinConfig, sampleConfig]
    results := [gradedResult twinConfig right, gradedResult sampleConfig true]
    usage := []
    failures := List.replicate 50 (numberedFailure 0)
    experiments_nonempty := by simp
    experiments_unique := by decide +kernel
    results_known := by simp [gradedResult]
    usage_known := by simp
    results_unique := twinResults_unique right
    cohort_shared := by
      intro first _ second member result listed _
      simp only [List.mem_cons, List.not_mem_nil, or_false] at member listed
      rcases member with rfl | rfl
      · refine ⟨_, List.mem_cons_self, rfl, ?_⟩
        rcases listed with rfl | rfl <;> rfl
      · refine ⟨_, List.mem_cons_of_mem _ List.mem_cons_self, rfl, ?_⟩
        rcases listed with rfl | rfl <;> rfl
    types_fixed := by
      intro first member second member' _
      simp only [List.mem_cons, List.not_mem_nil, or_false] at member member'
      rcases member with rfl | rfl <;> rcases member' with rfl | rfl <;> rfl
    usage_bound := by simp
    failures_bound := by
      intro failure member
      rw [List.eq_of_mem_replicate member]
      exact ⟨_, List.mem_cons_of_mem _ List.mem_cons_self, rfl, rfl, rfl⟩ }

theorem vatMultiplier_ge_one : (1 : ℚ) ≤ 11 / 10 := by norm_num

def twinRequest : ExportRequest :=
  { publicSalt := "salt"
    salt_filled := by decide
    size_range := by decide
    vat_ge_one := vatMultiplier_ge_one
    console_nonneg := by simp }

def twinBoard (right : Bool) : List LeaderboardRow :=
  [⟨digestOf 0, 1, if right then 1 else 0⟩, ⟨digestOf 0, 1, 1⟩]

private theorem twinBoard_ok (right : Bool) :
    leaderboard (markedPlatform []) (twinBundle right) twinRequest =
      .ok (twinBoard right) := by
  have order : sortBy AnalysisConfig.configHash (twinBundle right).configs =
      [twinConfig, sampleConfig] :=
    sortBy_eq_self (List.pairwise_pair.mpr le_rfl)
  rw [leaderboard, order]
  cases right <;> decide +kernel

private theorem twinSample_ok (right : Bool) :
    ∃ items, planFailureSample (markedPlatform []) "salt" (twinBundle right)
      50 = .ok items := by
  have hex : ∀ bytes, isHexDigest ((markedPlatform []).sha256Hex bytes) =
      true := fun _ => digestOf_isHexDigest _
  have unmoved : Reorders (twinBundle right) (twinBundle right) :=
    ⟨rfl, rfl, rfl, .refl _⟩
  obtain ⟨items, built⟩ := @exists_selectedItems (markedPlatform []) _ "salt"
    (twinBundle right) (markedPlatform_hashes _) hex 50
  refine ⟨items, ?_⟩
  rw [planFailureSample_eq (markedPlatform_hashes _) hex (by decide)
    (by simp [twinBundle]) unmoved]
  exact built

private theorem twinCosts_ok (right : Bool) :
    grossCosts (markedPlatform []) (twinBundle right) twinRequest =
      .ok .empty := by
  cases right <;> decide +kernel

/-- Both experiments are flagged. -/
private theorem twinTables_ok (right : Bool) :
    ∃ marginal, paretoTables (markedPlatform []) (twinBundle right)
      twinRequest =
        .ok ((twinBoard right).map (paretoRow (twinBoard right) .empty),
          marginal) := by
  have flagged : ((twinBoard right).map
      (paretoRow (twinBoard right) .empty)).filter ParetoRow.pareto =
        (twinBoard right).map (paretoRow (twinBoard right) .empty) := by
    rw [List.filter_eq_self, List.forall_mem_map]
    cases right <;> decide +kernel
  have order : frontierRows ((twinBoard right).map
      (paretoRow (twinBoard right) .empty)) =
        (twinBoard right).map (paretoRow (twinBoard right) .empty) := by
    rw [frontierRows, flagged]
    refine sortBy_eq_self (List.pairwise_pair.mpr ?_)
    cases right <;> decide +kernel
  have priced : (marginalRows (markedPlatform []).context
      ((twinBoard right).map (paretoRow (twinBoard right) .empty))).isOk =
        true := by
    rw [marginalRows, order]
    cases right <;> decide +kernel
  obtain ⟨items, sample⟩ := twinSample_ok right
  cases found : marginalRows (markedPlatform []).context
      ((twinBoard right).map (paretoRow (twinBoard right) .empty)) with
  | error exception =>
      rw [found] at priced
      cases priced
  | ok marginal =>
      refine ⟨marginal, ?_⟩
      rw [paretoTables, twinBoard_ok]
      change (planFailureSample _ "salt" _ 50 >>= _) = _
      rw [sample]
      change (grossCosts _ _ _ >>= _) = _
      rw [twinCosts_ok]
      change (marginalRows _ _ >>= _) = _
      rw [found]
      rfl

theorem equal_twins_frontier : ∃ pareto marginal,
    paretoTables (markedPlatform []) (twinBundle true) twinRequest =
        .ok (pareto, marginal) ∧
      IsFrontier pareto marginal := by
  obtain ⟨marginal, built⟩ := twinTables_ok true
  refine ⟨_, marginal, built, (pareto_table_frontier_iff built).mpr ?_⟩
  intro rows found row member twin member' _ better
  rw [pricedRows, twinBoard_ok, twinCosts_ok] at found
  cases found
  have best : ∀ row ∈ (twinBoard true).map (pricedRow .empty),
      row.quality = 1 := by
    rw [List.forall_mem_map]
    decide +kernel
  rw [best row member, best twin member'] at better
  exact absurd better (lt_irrefl 1)

/-- The experiment that answers wrong is flagged, although its twin answers
right at the same cost. -/
theorem worse_twin_flagged : ∃ pareto marginal,
    paretoTables (markedPlatform []) (twinBundle false) twinRequest =
        .ok (pareto, marginal) ∧
      ¬IsFrontier pareto marginal := by
  obtain ⟨marginal, built⟩ := twinTables_ok false
  refine ⟨_, marginal, built, fun frontier => ?_⟩
  refine (frontier.flagged _ List.mem_cons_self).mp (by decide +kernel)
    ⟨_, List.mem_cons_of_mem _ List.mem_cons_self, ?_⟩
  exact ⟨by decide +kernel, by decide +kernel, .inl (by decide +kernel)⟩

end RagBench
