import RagBench.DecimalError
import RagBench.Grouping
import RagBench.Python
import RagBench.PyText
import RagBench.Sorting
import Mathlib.Data.Finset.Card
import Mathlib.Data.String.Basic

/-!
# Paired bootstrap

Confidence intervals over paired effects.  The final intervals resample whole
document clusters, so they need at least two of them.
-/

namespace RagBench

open Decimal

/-- The nearest float of a non-negative number: 53 bits, ties to even. -/
def nearestFloat (value : ℚ) : ℚ :=
  let unit : ℚ := 2 ^ (Int.log 2 value + 1 - 53)
  halfEven (value / unit) * unit

/-- The arithmetic of floats. -/
structure FloatArithmetic where
  add : PyFloat → PyFloat → PyFloat
  sub : PyFloat → PyFloat → PyFloat
  mul : PyFloat → PyFloat → PyFloat
  sum : List PyFloat → PyFloat
  /-- Division by a positive integer. -/
  divide : PyFloat → ℕ → PyFloat
  sort : List PyFloat → List PyFloat
  sort_perm : ∀ values, (sort values).Perm values

/-- `random.Random(seed)`: the index that a draw from a sequence of some length
chooses. -/
structure Random where
  choice : ℤ → ℕ → ℕ → ℕ
  choice_lt : ∀ seed draw size, 0 < size → choice seed draw size < size

def PyException.zeroDivision : PyException :=
  ⟨.derived "ZeroDivisionError" .arithmeticError, "division by zero"⟩

/-- `numerator / denominator` of exact numbers. -/
def divide (numerator denominator : ℚ) : Except PyException ℚ :=
  if denominator = 0 then .error .zeroDivision
  else .ok (numerator / denominator)

theorem divide_ok {numerator denominator : ℚ} (nonzero : denominator ≠ 0) :
    divide numerator denominator = .ok (numerator / denominator) :=
  if_neg nonzero

structure PairedObservation where
  observationId : String
  left : PyFloat
  right : PyFloat
  documentClusterId : Option String

/-- `__post_init__`. -/
def PairedObservation.validate (row : PairedObservation) :
    Except PyException PairedObservation := do
  raiseIf (strip row.observationId = "")
    (.valueError "observation ID cannot be blank")
  raiseIf (¬ row.left.isFinite ∨ ¬ row.right.isFinite)
    (.valueError "paired values must be finite")
  raiseIf (row.documentClusterId.any fun cluster => strip cluster = "")
    (.valueError "document cluster ID cannot be blank")
  return row

structure BootstrapInterval where
  effect : PyFloat
  ciLow : PyFloat
  ciHigh : PyFloat
  confidence : ℚ
  resamples : ℕ
  seed : ℤ
  method : String
  sampleCount : ℕ
  clusterCount : Option ℕ

section Bootstrap

variable (arithmetic : FloatArithmetic) (random : Random)

/-- `sum(values) / len(values)`. -/
def mean (values : List PyFloat) : Except PyException PyFloat :=
  if values = [] then .error .zeroDivision
  else .ok (arithmetic.divide (arithmetic.sum values) values.length)

/-- `values[index]`. -/
def valueAt (values : List PyFloat) (index : ℕ) :
    Except PyException PyFloat :=
  match values[index]? with
  | some value => .ok value
  | none => .error (.indexError "list index out of range")

/-- `_percentile`. -/
def percentile (sortedValues : List PyFloat) (quantile : ℚ) :
    Except PyException PyFloat :=
  let position := nearestFloat
    (nearestFloat ((sortedValues.length - 1 : ℕ) : ℚ) * quantile)
  let lower := ⌊position⌋.toNat
  let upper := ⌈position⌉.toNat
  if lower = upper then valueAt sortedValues lower
  else do
    let fraction := nearestFloat (position - lower)
    let low ← valueAt sortedValues lower
    let high ← valueAt sortedValues upper
    return arithmetic.add
      (arithmetic.mul low (.finite (nearestFloat (1 - fraction))))
      (arithmetic.mul high (.finite fraction))

/-- The effects under their clusters. -/
def clusterEffects (observations : List PairedObservation) :
    Dict String (List (String × PyFloat)) :=
  groupInto Prod.fst .empty (observations.filterMap fun row =>
    row.documentClusterId.map fun cluster =>
      (cluster, arithmetic.sub row.left row.right))

/-- One resample of as many clusters as there are. -/
def resampleClusters (observations : List PairedObservation) (seed : ℤ)
    (resample : ℕ) : Except PyException PyFloat :=
  let clusters := clusterEffects arithmetic observations
  let clusterIds := sortBy id clusters.keys
  let sampled := (List.range clusterIds.length).map fun position =>
    clusters.getD (clusterIds.getD (random.choice seed
      (resample * clusterIds.length + position) clusterIds.length) "") []
  mean arithmetic (sampled.flatten.map Prod.snd)

/-- One resample of as many effects as there are. -/
def resampleEffects (effects : List PyFloat) (seed : ℤ) (resample : ℕ) :
    Except PyException PyFloat :=
  mean arithmetic ((List.range effects.length).map fun position =>
    effects.getD (random.choice seed (resample * effects.length + position)
      effects.length) .nan)

/-- The effects of the resamples, and the number of clusters. -/
def sampleEffects (observations : List PairedObservation)
    (clusterByDocument : Bool) (seed : ℤ) (resamples : ℕ) :
    Except PyException (List PyFloat × Option ℕ) :=
  if clusterByDocument then do
    raiseIf (observations.any fun row => row.documentClusterId = none)
      (.valueError "document cluster IDs are required for cluster bootstrap")
    let count := (clusterEffects arithmetic observations).keys.length
    raiseIf (count < 2) (.valueError
      "cluster bootstrap requires at least two document clusters")
    let sampled ← (List.range resamples).mapM
      (resampleClusters arithmetic random observations seed)
    return (sampled, some count)
  else do
    let sampled ← (List.range resamples).mapM
      (resampleEffects arithmetic random
        (observations.map fun row => arithmetic.sub row.left row.right) seed)
    return (sampled, none)

def bootstrapMethod (clusterByDocument : Bool) : String :=
  if clusterByDocument then "document-cluster-paired-bootstrap"
  else "observation-paired-bootstrap-sensitivity"

/-- A seed has to be given. -/
def requireSeed : Option ℤ → Except PyException ℤ
  | some seed => .ok seed
  | none => .error (.valueError "a fixed bootstrap seed is required")

/-- `paired_bootstrap`. -/
def pairedBootstrap (observations : List PairedObservation) (seed : Option ℤ)
    (resamples : ℕ) (final clusterByDocument : Bool) (confidence : ℚ) :
    Except PyException BootstrapInterval := do
  let seed ← requireSeed seed
  raiseIf (resamples = 0)
    (.valueError "resamples must be a positive integer")
  raiseIf (final ∧ resamples < 10000) (.valueError
    "final confidence intervals require at least 10,000 resamples")
  raiseIf (¬ (0 < confidence ∧ confidence < 1))
    (.valueError "confidence must be between zero and one")
  raiseIf (observations.length < 2)
    (.valueError "bootstrap requires at least two paired observations")
  raiseIf (¬ (observations.map PairedObservation.observationId).Nodup)
    (.valueError "duplicate observation IDs are not allowed")
  raiseIf (final ∧ ¬ clusterByDocument)
    (.valueError "final intervals require document-cluster bootstrap")
  let effect ← mean arithmetic
    (observations.map fun row => arithmetic.sub row.left row.right)
  let sampled ← sampleEffects arithmetic random observations
    clusterByDocument seed resamples
  let sortedValues := arithmetic.sort sampled.1
  let alpha := nearestFloat (1 - confidence) / 2
  let ciLow ← percentile arithmetic sortedValues alpha
  let ciHigh ← percentile arithmetic sortedValues (nearestFloat (1 - alpha))
  return {
    effect := effect
    ciLow := ciLow
    ciHigh := ciHigh
    confidence := confidence
    resamples := resamples
    seed := seed
    method := bootstrapMethod clusterByDocument
    sampleCount := observations.length
    clusterCount := sampled.2 }

end Bootstrap

/-! ## Percentiles -/

theorem nearestFloat_error {value : ℚ} (nonneg : 0 ≤ value) :
    |nearestFloat value - value| ≤ 1 / 2 ^ 53 * value := by
  rcases nonneg.eq_or_lt with rfl | positive
  · simp [nearestFloat, halfEven]
  · have unit : (0 : ℚ) < 2 ^ (Int.log 2 value + 1 - 53) :=
      zpow_pos (by norm_num) _
    have lower : ((2 : ℕ) : ℚ) ^ Int.log 2 value ≤ value :=
      Int.zpow_log_le_self (by norm_num) positive
    push_cast at lower
    have split : (2 : ℚ) ^ (Int.log 2 value + 1 - 53) =
        2 ^ Int.log 2 value * (1 / 2 ^ 52) := by
      rw [show Int.log 2 value + 1 - 53 = Int.log 2 value + (-52) by ring,
        zpow_add₀ (by norm_num), zpow_neg]
      norm_num
    have error := halfEven_mul_error unit value
    change |halfEven (value / 2 ^ (Int.log 2 value + 1 - 53)) *
      2 ^ (Int.log 2 value + 1 - 53) - value| ≤ _
    rw [split] at error ⊢
    linarith

theorem nearestFloat_le {value : ℚ} (nonneg : 0 ≤ value) :
    nearestFloat value ≤ (1 + 1 / 2 ^ 53) * value := by
  have error := (abs_le.mp (nearestFloat_error nonneg)).2
  linarith

theorem nearestFloat_nonneg {value : ℚ} (nonneg : 0 ≤ value) :
    0 ≤ nearestFloat value := by
  have error := (abs_le.mp (nearestFloat_error nonneg)).1
  linarith

variable (arithmetic : FloatArithmetic) (random : Random)

theorem valueAt_ok {values : List PyFloat} {index : ℕ}
    (inside : index < values.length) :
    ∃ value, valueAt values index = .ok value := by
  rw [valueAt, List.getElem?_eq_getElem inside]
  exact ⟨_, rfl⟩

/-- Rounding does not move the position of a quantile past the end. -/
theorem percentile_ok {sortedValues : List PyFloat} {quantile : ℚ}
    (nonempty : sortedValues ≠ []) (nonneg : 0 ≤ quantile)
    (low : quantile ≤ 98 / 100) :
    ∃ value, percentile arithmetic sortedValues quantile = .ok value := by
  have positive := List.length_pos_of_ne_nil nonempty
  have ends : (0 : ℚ) ≤ (sortedValues.length - 1 : ℕ) := Nat.cast_nonneg _
  have product := mul_nonneg (nearestFloat_nonneg ends) nonneg
  have within : nearestFloat
      (nearestFloat ((sortedValues.length - 1 : ℕ) : ℚ) * quantile) ≤
        (sortedValues.length - 1 : ℕ) := by
    have outer := nearestFloat_le product
    have inner := mul_le_mul (nearestFloat_le ends) low nonneg (by positivity)
    linarith
  unfold percentile
  dsimp only
  generalize nearestFloat
    (nearestFloat ((sortedValues.length - 1 : ℕ) : ℚ) * quantile) = position
    at within
  have upper : ⌈position⌉.toNat < sortedValues.length := by
    have ceiling : ⌈position⌉ ≤ ((sortedValues.length - 1 : ℕ) : ℤ) :=
      Int.ceil_le.mpr (by exact_mod_cast within)
    omega
  have lower : ⌊position⌋.toNat < sortedValues.length := by
    have floor := Int.floor_le_ceil position
    omega
  obtain ⟨first, found⟩ := valueAt_ok lower
  obtain ⟨second, found'⟩ := valueAt_ok upper
  split_ifs
  · exact ⟨first, found⟩
  · exact ⟨_, bind_eq_ok.mpr ⟨_, found, bind_eq_ok.mpr ⟨_, found', rfl⟩⟩⟩

/-! ## Clusters -/

theorem mean_ok {arithmetic : FloatArithmetic} {values : List PyFloat} :
    (∃ value, mean arithmetic values = .ok value) ↔ values ≠ [] := by
  unfold mean
  split_ifs with empty
  · exact ⟨fun ⟨_, impossible⟩ => (nomatch impossible),
      fun nonempty => absurd empty nonempty⟩
  · exact ⟨fun _ => empty, fun _ => ⟨_, rfl⟩⟩

/-- The clusters of the observations. -/
def clustersOf (observations : List PairedObservation) : Finset String :=
  (observations.filterMap PairedObservation.documentClusterId).toFinset

theorem clusterEffects_keys (observations : List PairedObservation) :
    (clusterEffects arithmetic observations).keys.toFinset =
      clustersOf observations := by
  ext cluster
  rw [List.mem_toFinset, clusterEffects, mem_keys_groupInto, clustersOf,
    List.mem_toFinset, List.mem_filterMap]
  constructor
  · rintro (impossible | ⟨pair, member, rfl⟩)
    · cases impossible
    · obtain ⟨row, listed, same⟩ := List.mem_filterMap.mp member
      obtain ⟨_, named, rfl⟩ := Option.map_eq_some_iff.mp same
      exact ⟨row, listed, named⟩
  · rintro ⟨row, listed, named⟩
    refine .inr ⟨(cluster, arithmetic.sub row.left row.right),
      List.mem_filterMap.mpr ⟨row, listed, ?_⟩, rfl⟩
    rw [named]
    rfl

theorem clusterEffects_length (observations : List PairedObservation) :
    (clusterEffects arithmetic observations).keys.length =
      (clustersOf observations).card := by
  have distinct : (clusterEffects arithmetic observations).keys.Nodup :=
    (clusterEffects arithmetic observations).nodup
  rw [← List.toFinset_card_of_nodup distinct, clusterEffects_keys]

/-- Every cluster has an effect. -/
theorem clusterEffects_ne_nil {arithmetic : FloatArithmetic}
    {observations : List PairedObservation} {cluster : String}
    (known : cluster ∈ (clusterEffects arithmetic observations).keys) :
    (clusterEffects arithmetic observations).getD cluster [] ≠ [] := by
  rw [clusterEffects, mem_keys_groupInto] at known
  rw [clusterEffects, getD_groupInto]
  rcases known with impossible | ⟨pair, member, same⟩
  · cases impossible
  · refine List.append_ne_nil_of_right_ne_nil _ (List.ne_nil_of_mem
      (List.mem_filter.mpr ⟨member, ?_⟩))
    exact decide_eq_true same

theorem resampleClusters_ok {observations : List PairedObservation}
    (some : 0 < (clustersOf observations).card) (seed : ℤ) (resample : ℕ) :
    ∃ value, resampleClusters arithmetic random observations seed resample =
      .ok value := by
  have permuted :=
    sortBy_perm id (clusterEffects arithmetic observations).keys
  rw [← clusterEffects_length arithmetic, ← permuted.length_eq] at some
  unfold resampleClusters
  dsimp only
  generalize sortBy id (clusterEffects arithmetic observations).keys =
    clusterIds at some permuted
  refine mean_ok.mpr fun empty => ?_
  rw [List.map_eq_nil_iff, List.flatten_eq_nil_iff] at empty
  -- The first cluster that is drawn has an effect.
  have drawn := random.choice_lt seed (resample * clusterIds.length + 0) _ some
  refine clusterEffects_ne_nil (permuted.mem_iff.mp
    (List.getElem_mem drawn)) (empty _ (List.mem_map.mpr
      ⟨0, List.mem_range.mpr some, ?_⟩))
  rw [List.getD_eq_getElem?_getD, List.getElem?_eq_getElem drawn]
  rfl

/-- `0.95`. -/
def confidenceLevel : ℚ :=
  nearestFloat (19 / 20)

section Interval

variable {observations : List PairedObservation} {seed : ℤ}
  {resamples : ℕ}

/-- Two clusters are enough for a final interval. -/
theorem pairedBootstrap_ok
    (identified : ∀ row ∈ observations, row.documentClusterId ≠ none)
    (distinct :
      (observations.map PairedObservation.observationId).Nodup)
    (enough : 10000 ≤ resamples)
    (several : 2 ≤ (clustersOf observations).card) :
    ∃ interval, pairedBootstrap arithmetic random observations seed resamples
        true true confidenceLevel = .ok interval ∧
      interval.sampleCount = observations.length ∧
      interval.clusterCount = some (clustersOf observations).card ∧
      interval.resamples = resamples := by
  have length : 2 ≤ observations.length :=
    (several.trans (List.toFinset_card_le _)).trans
      (List.length_filterMap_le _ _)
  have effects : (observations.map fun row =>
      arithmetic.sub row.left row.right) ≠ [] := by
    intro empty
    rw [List.map_eq_nil_iff.mp empty] at length
    exact absurd length (by decide)
  obtain ⟨effect, averaged⟩ : ∃ effect, mean arithmetic _ = .ok effect :=
    mean_ok.mpr effects
  obtain ⟨values, drawn⟩ : ∃ values, (List.range resamples).mapM
      (resampleClusters arithmetic random observations seed) = .ok values :=
    exists_mapM_iff.mpr fun resample _ => resampleClusters_ok arithmetic
      random (Nat.lt_of_lt_of_le Nat.zero_lt_two several) seed resample
  have drawnLength : values.length = resamples := by
    rw [← (mapM_eq_ok.mp drawn).length_eq, List.length_range]
  have sampled : sampleEffects arithmetic random observations true seed
      resamples = .ok (values, some (clustersOf observations).card) := by
    unfold sampleEffects
    rw [if_pos rfl, raiseIf_bind (by simpa using identified)]
    dsimp only
    rw [clusterEffects_length, raiseIf_bind (not_lt.mpr several), drawn]
    rfl
  have sortedValues : arithmetic.sort values ≠ [] := by
    rw [← List.length_pos_iff, (arithmetic.sort_perm values).length_eq,
      drawnLength]
    exact Nat.lt_of_lt_of_le (by decide) enough
  obtain ⟨ciLow, low⟩ := percentile_ok arithmetic sortedValues
    (show 0 ≤ nearestFloat (1 - confidenceLevel) / 2 by decide +kernel)
    (by decide +kernel)
  obtain ⟨ciHigh, high⟩ := percentile_ok arithmetic sortedValues
    (show 0 ≤ nearestFloat (1 - nearestFloat (1 - confidenceLevel) / 2) by
      decide +kernel) (by decide +kernel)
  have level : 0 < confidenceLevel ∧ confidenceLevel < 1 := by decide +kernel
  unfold pairedBootstrap requireSeed
  change ∃ interval, (raiseIf _ _ >>= fun _ => _) = _ ∧ _
  rw [raiseIf_bind (by omega), raiseIf_bind (by omega),
    raiseIf_bind (not_not.mpr level), raiseIf_bind (by omega),
    raiseIf_bind (not_not.mpr distinct), raiseIf_bind (by simp), averaged]
  change ∃ interval, (sampleEffects _ _ _ _ _ _ >>= fun _ => _) = _ ∧ _
  rw [sampled]
  change ∃ interval, (percentile _ _ _ >>= fun _ => _) = _ ∧ _
  rw [low]
  change ∃ interval, (percentile _ _ _ >>= fun _ => _) = _ ∧ _
  rw [high]
  exact ⟨_, rfl, rfl, rfl, rfl⟩

/-- A final interval is over at least two clusters. -/
theorem clusters_of_pairedBootstrap {confidence : ℚ}
    {interval : BootstrapInterval}
    (success : pairedBootstrap arithmetic random observations seed resamples
      true true confidence = .ok interval) :
    2 ≤ (clustersOf observations).card := by
  unfold pairedBootstrap at success
  obtain ⟨seed, -, success⟩ := bind_eq_ok.mp success
  obtain ⟨_, -, success⟩ := bind_eq_ok.mp success
  obtain ⟨_, -, success⟩ := bind_eq_ok.mp success
  obtain ⟨_, -, success⟩ := bind_eq_ok.mp success
  obtain ⟨_, -, success⟩ := bind_eq_ok.mp success
  obtain ⟨_, -, success⟩ := bind_eq_ok.mp success
  obtain ⟨_, -, success⟩ := bind_eq_ok.mp success
  obtain ⟨_, -, success⟩ := bind_eq_ok.mp success
  obtain ⟨sampled, drawn, -⟩ := bind_eq_ok.mp success
  unfold sampleEffects at drawn
  rw [if_pos rfl] at drawn
  obtain ⟨_, -, drawn⟩ := bind_eq_ok.mp drawn
  dsimp only at drawn
  obtain ⟨_, several, -⟩ := bind_eq_ok.mp drawn
  rw [clusterEffects_length] at several
  exact not_lt.mp (raiseIf_eq_ok.mp several)

end Interval

end RagBench
