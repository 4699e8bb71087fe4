import Mathlib.Data.Rat.Floor
import Mathlib.Algebra.BigOperators.Group.List.Basic
import RagBench.Evaluation.Bootstrap
import RagBench.Interpolation

/-!
# The paired bootstrap in exact arithmetic

The scores, the effects and the percentiles are rationals here.  The draws are
those of a fixed random sequence.
-/

namespace RagBench

/-- A paired observation with finite scores. -/
structure PairedScores where
  observationId : String
  left : ℚ
  right : ℚ
  documentClusterId : Option String

/-- `row.left - row.right`. -/
def PairedScores.effect (row : PairedScores) : ℚ :=
  row.left - row.right

/-- The systems change places. -/
def PairedScores.swapped (row : PairedScores) : PairedScores :=
  { row with
    left := row.right
    right := row.left }

structure ExactInterval where
  effect : ℚ
  ciLow : ℚ
  ciHigh : ℚ
  confidence : ℚ
  resamples : ℕ
  seed : ℤ
  method : String
  sampleCount : ℕ
  clusterCount : Option ℕ

/-- The interval of the swapped systems. -/
def ExactInterval.mirrored (interval : ExactInterval) : ExactInterval :=
  { interval with
    effect := -interval.effect
    ciLow := -interval.ciHigh
    ciHigh := -interval.ciLow }

namespace Exact

/-- `sum(values) / len(values)`. -/
def mean (values : List ℚ) : Except PyException ℚ :=
  if values = [] then .error .zeroDivision
  else .ok (values.sum / values.length)

/-- `_percentile`. -/
def percentile (sortedValues : List ℚ) (quantile : ℚ) :
    Except PyException ℚ :=
  let position := ((sortedValues.length : ℚ) - 1) * quantile
  let lower := ⌊position⌋
  let upper := ⌈position⌉
  if lower = upper then pyIndex sortedValues lower
  else do
    let fraction := position - lower
    let low ← pyIndex sortedValues lower
    let high ← pyIndex sortedValues upper
    return low * (1 - fraction) + high * fraction

/-- The effects under their clusters. -/
def clusterEffects (observations : List PairedScores) :
    Dict String (List (String × ℚ)) :=
  groupInto Prod.fst .empty (observations.filterMap fun row =>
    row.documentClusterId.map fun cluster => (cluster, row.effect))

section Samples

variable (random : Random)

/-- One resample of as many clusters as there are. -/
def resampleClusters (observations : List PairedScores) (seed : ℤ)
    (resample : ℕ) : Except PyException ℚ :=
  let clusters := clusterEffects observations
  let clusterIds := sortBy id clusters.keys
  let sampled := (List.range clusterIds.length).map fun position =>
    clusters.getD (clusterIds.getD (random.choice seed
      (resample * clusterIds.length + position) clusterIds.length) "") []
  mean (sampled.flatten.map Prod.snd)

/-- One resample of as many effects as there are. -/
def resampleEffects (effects : List ℚ) (seed : ℤ) (resample : ℕ) :
    Except PyException ℚ :=
  mean ((List.range effects.length).map fun position =>
    effects.getD (random.choice seed (resample * effects.length + position)
      effects.length) 0)

/-- The effects of the resamples, and the number of clusters. -/
def sampleEffects (observations : List PairedScores)
    (clusterByDocument : Bool) (seed : ℤ) (resamples : ℕ) :
    Except PyException (List ℚ × Option ℕ) :=
  if clusterByDocument then do
    raiseIf (observations.any fun row => row.documentClusterId = none)
      (.valueError "document cluster IDs are required for cluster bootstrap")
    let count := (clusterEffects observations).keys.length
    raiseIf (count < 2) (.valueError
      "cluster bootstrap requires at least two document clusters")
    let sampled ← (List.range resamples).mapM
      (resampleClusters random observations seed)
    return (sampled, some count)
  else do
    let sampled ← (List.range resamples).mapM
      (resampleEffects random (observations.map PairedScores.effect) seed)
    return (sampled, none)

/-- `paired_bootstrap`. -/
def pairedBootstrap (observations : List PairedScores) (seed : Option ℤ)
    (resamples : ℕ) (final clusterByDocument : Bool) (confidence : ℚ) :
    Except PyException ExactInterval := do
  let seed ← requireSeed seed
  raiseIf (resamples = 0)
    (.valueError "resamples must be a positive integer")
  raiseIf (final ∧ resamples < 10000) (.valueError
    "final confidence intervals require at least 10,000 resamples")
  raiseIf (¬ (0 < confidence ∧ confidence < 1))
    (.valueError "confidence must be between zero and one")
  raiseIf (observations.length < 2)
    (.valueError "bootstrap requires at least two paired observations")
  raiseIf (¬ (observations.map PairedScores.observationId).Nodup)
    (.valueError "duplicate observation IDs are not allowed")
  raiseIf (final ∧ ¬ clusterByDocument)
    (.valueError "final intervals require document-cluster bootstrap")
  let effect ← mean (observations.map PairedScores.effect)
  let sampled ← sampleEffects random observations clusterByDocument seed
    resamples
  let sortedValues := sortBy id sampled.1
  let alpha := (1 - confidence) / 2
  let ciLow ← percentile sortedValues alpha
  let ciHigh ← percentile sortedValues (1 - alpha)
  return {
    effect := effect
    ciLow := ciLow
    ciHigh := ciHigh
    confidence := confidence
    resamples := resamples
    seed := seed
    method := bootstrapMethod clusterByDocument
    sampleCount := observations.length
    clusterCount := sampled.2 }

end Samples

/-! ## Percentiles -/

/-- The values at all indices, the last one beyond the end. -/
def valueOf (values : List ℚ) (index : ℕ) : ℚ :=
  values.getD (min index (values.length - 1)) 0

private theorem getD_inside {values : List ℚ} {index : ℕ}
    (inside : index < values.length) : values.getD index 0 = values[index] := by
  rw [List.getD_eq_getElem?_getD, List.getElem?_eq_getElem inside]
  rfl

theorem valueOf_mono {values : List ℚ}
    (sorted : values.Pairwise fun low high => low ≤ high) :
    Monotone (valueOf values) := by
  intro first second le
  rcases values.length.eq_zero_or_pos with empty | positive
  · rw [List.eq_nil_of_length_eq_zero empty]
    rfl
  · have bound : min first (values.length - 1) < values.length := by omega
    have bound' : min second (values.length - 1) < values.length := by omega
    rw [valueOf, valueOf, getD_inside bound, getD_inside bound']
    exact sorted.sortedLE.getElem_le_getElem_of_le (by omega)

private theorem pyIndex_valueOf {values : List ℚ} {index : ℕ}
    (inside : index < values.length) :
    pyIndex values index = .ok (valueOf values index) := by
  have same : min index (values.length - 1) = index := by omega
  have nonneg : ¬(index : ℤ) < 0 := by omega
  rw [valueOf, same, getD_inside inside, pyIndex]
  simp only [if_neg nonneg, Int.toNat_natCast,
    List.getElem?_eq_getElem inside]

/-- A percentile is an interpolated value. -/
theorem percentile_eq {values : List ℚ} (nonempty : values ≠ [])
    {quantile : ℚ} (nonneg : 0 ≤ quantile) (le : quantile ≤ 1) :
    percentile values quantile = .ok (interpolate (valueOf values)
      ((values.length - 1 : ℕ) * quantile)) := by
  have positive := List.length_pos_of_ne_nil nonempty
  have last : (values.length : ℚ) - 1 = (values.length - 1 : ℕ) := by
    rw [Nat.cast_sub positive, Nat.cast_one]
  have position_nonneg : 0 ≤ ((values.length - 1 : ℕ) : ℚ) * quantile :=
    mul_nonneg (Nat.cast_nonneg _) nonneg
  have position_le : ((values.length - 1 : ℕ) : ℚ) * quantile ≤
      (values.length - 1 : ℕ) := by
    exact mul_le_of_le_one_right (Nat.cast_nonneg _) le
  rw [percentile, last]
  generalize ((values.length - 1 : ℕ) : ℚ) * quantile = position at *
  have floor : ⌊position⌋ = (⌊position⌋₊ : ℤ) :=
    (Int.natCast_floor_eq_floor position_nonneg).symm
  have within : ⌊position⌋₊ < values.length := by
    have below : ⌊position⌋₊ ≤ values.length - 1 :=
      Nat.floor_le_of_le position_le
    omega
  by_cases same : ⌊position⌋ = ⌈position⌉
  · have exact : (⌊position⌋₊ : ℚ) = position := by
      have low := Int.floor_le position
      have high := Int.le_ceil position
      rw [← same] at high
      have equal := le_antisymm low high
      rw [floor] at equal
      exact_mod_cast equal
    simp only [if_pos same]
    rw [floor, pyIndex_valueOf within, interpolate, exact, sub_self, zero_mul,
      add_zero]
  · have ceiling : ⌈position⌉ = ((⌊position⌋₊ + 1 : ℕ) : ℤ) := by
      have low := Int.floor_le_ceil position
      have high := Int.ceil_le_floor_add_one position
      push_cast
      omega
    have inside : ⌊position⌋₊ + 1 < values.length := by
      have below : ⌈position⌉ ≤ ((values.length - 1 : ℕ) : ℤ) :=
        Int.ceil_le.mpr (by exact_mod_cast position_le)
      omega
    simp only [if_neg same]
    rw [ceiling, floor, pyIndex_valueOf within, pyIndex_valueOf inside]
    change Except.ok _ = Except.ok _
    rw [interpolate]
    push_cast
    ring_nf

/-- The percentiles of sorted values lie between the first and the last one,
in the order of the quantiles. -/
theorem percentile_bounds {values : List ℚ} (nonempty : values ≠ [])
    (sorted : values.Pairwise fun low high => low ≤ high)
    {quantile larger : ℚ} (nonneg : 0 ≤ quantile) (le : quantile ≤ larger)
    (large : larger ≤ 1) :
    ∃ low high, percentile values quantile = .ok low ∧
      percentile values larger = .ok high ∧ low ≤ high ∧
        (∃ smallest ∈ values, smallest ≤ low) ∧
          ∃ largest ∈ values, high ≤ largest := by
  have positive := List.length_pos_of_ne_nil nonempty
  have mono := valueOf_mono sorted
  have size : (0 : ℚ) ≤ (values.length - 1 : ℕ) := Nat.cast_nonneg _
  have first : (0 : ℚ) ≤ (values.length - 1 : ℕ) * quantile :=
    mul_nonneg size nonneg
  have second := mul_le_mul_of_nonneg_left le size
  have third := mul_le_mul_of_nonneg_left large size
  have listed (index : ℕ) : valueOf values index ∈ values := by
    rw [valueOf, getD_inside (by omega)]
    exact List.getElem_mem _
  refine ⟨_, _, percentile_eq nonempty nonneg (le.trans large),
    percentile_eq nonempty (nonneg.trans le) large,
    interpolate_mono mono first second, ⟨_, listed 0, ?_⟩,
    ⟨_, listed (values.length - 1), ?_⟩⟩
  · have start := interpolate_mono mono le_rfl first
    rwa [← Nat.cast_zero, interpolate_natCast] at start
  · rw [mul_one] at third
    have last := interpolate_mono mono (first.trans second) third
    rwa [interpolate_natCast] at last

theorem sortBy_neg (values : List ℚ) :
    sortBy id (values.map (- ·)) = ((sortBy id values).map (- ·)).reverse := by
  refine List.Perm.eq_of_pairwise
    (fun _ _ _ _ low high => le_antisymm low high) ?_ ?_ ?_
  · exact sortBy_pairwise id _
  · rw [List.pairwise_reverse, List.pairwise_map]
    exact (sortBy_pairwise id values).imp fun le => neg_le_neg le
  · exact (sortBy_perm id _).trans
      (((sortBy_perm id values).map _).symm.trans (List.reverse_perm _).symm)

private theorem valueOf_mirror {values : List ℚ} (nonempty : values ≠ []) :
    valueOf (values.map (- ·)).reverse =
      fun index => -valueOf values (values.length - 1 - index) := by
  have positive := List.length_pos_of_ne_nil nonempty
  funext index
  have inside : min index (values.length - 1) <
      ((values.map (- ·)).reverse).length := by
    rw [List.length_reverse, List.length_map]
    omega
  have place : values.length - 1 - min index (values.length - 1) =
      min (values.length - 1 - index) (values.length - 1) := by omega
  rw [valueOf, valueOf, List.length_reverse, List.length_map,
    getD_inside inside, getD_inside (by omega), List.getElem_reverse,
    List.getElem_map]
  simp only [List.length_map, place]

/-- The percentiles of the negated values mirror those of the values. -/
theorem percentile_mirror {values : List ℚ} (nonempty : values ≠ [])
    {quantile : ℚ} (nonneg : 0 ≤ quantile) (le : quantile ≤ 1) :
    percentile (values.map (- ·)).reverse quantile =
      (percentile values (1 - quantile)).map (- ·) := by
  have size : (0 : ℚ) ≤ (values.length - 1 : ℕ) := Nat.cast_nonneg _
  have mirrored : (values.map (- ·)).reverse ≠ [] := by
    simpa using nonempty
  rw [percentile_eq mirrored nonneg le,
    percentile_eq nonempty (sub_nonneg.mpr le) (sub_le_self 1 nonneg)]
  change Except.ok _ = Except.ok _
  rw [valueOf_mirror nonempty, List.length_reverse, List.length_map,
    interpolate_reflect _ (mul_nonneg size nonneg)
      (mul_le_of_le_one_right size le), mul_sub, mul_one]

/-! ## Resamples -/

theorem mean_perm {values others : List ℚ} (permuted : values.Perm others) :
    mean values = mean others := by
  by_cases empty : values = []
  · subst empty
    rw [List.nil_perm.mp permuted]
  · have other : others ≠ [] := fun none =>
      empty (List.perm_nil.mp (none ▸ permuted))
    rw [mean, mean, if_neg empty, if_neg other, permuted.sum_eq,
      permuted.length_eq]

private theorem sum_neg (values : List ℚ) :
    (values.map (- ·)).sum = -values.sum := by
  induction values with
  | nil => simp
  | cons value values induction =>
      rw [List.map_cons, List.sum_cons, induction, List.sum_cons, neg_add]

theorem mean_neg (values : List ℚ) :
    mean (values.map (- ·)) = (mean values).map (- ·) := by
  by_cases empty : values = []
  · subst empty
    rfl
  · have other : values.map (- ·) ≠ [] := by simpa using empty
    rw [mean, mean, if_neg empty, if_neg other, List.length_map]
    change Except.ok _ = Except.ok _
    rw [sum_neg, neg_div]

section Clusters

variable {observations others : List PairedScores}

theorem getD_clusterEffects (observations : List PairedScores)
    (cluster : String) :
    (clusterEffects observations).getD cluster [] =
      (observations.filterMap fun row => row.documentClusterId.map
        fun cluster => (cluster, row.effect)).filter fun pair =>
          pair.1 = cluster := by
  rw [clusterEffects, getD_groupInto]
  rfl

theorem mem_clusterEffects (observations : List PairedScores)
    (cluster : String) :
    cluster ∈ (clusterEffects observations).keys ↔
      ∃ row ∈ observations, row.documentClusterId = some cluster := by
  rw [clusterEffects, mem_keys_groupInto]
  simp only [Dict.keys, Dict.empty, List.map_nil, List.not_mem_nil, false_or,
    List.mem_filterMap, Option.map_eq_some_iff]
  constructor
  · rintro ⟨_, ⟨row, listed, named, same, rfl⟩, rfl⟩
    exact ⟨row, listed, same⟩
  · rintro ⟨row, listed, same⟩
    exact ⟨(cluster, row.effect), ⟨row, listed, cluster, same, rfl⟩, rfl⟩

/-- The sorted clusters depend on the named clusters alone. -/
theorem clusterIds_congr
    (same : ∀ cluster,
      (∃ row ∈ observations, row.documentClusterId = some cluster) ↔
        ∃ row ∈ others, row.documentClusterId = some cluster) :
    (clusterEffects observations).keys.Perm (clusterEffects others).keys := by
  have distinct : (clusterEffects observations).keys.Nodup :=
    (clusterEffects observations).nodup
  have distinct' : (clusterEffects others).keys.Nodup :=
    (clusterEffects others).nodup
  rw [List.perm_ext_iff_of_nodup distinct distinct']
  intro cluster
  rw [mem_clusterEffects, mem_clusterEffects, same]

/-- A resample whose clusters are permuted or replaced one by one. -/
private theorem resampleClusters_eq {random : Random} {seed : ℤ}
    {resample : ℕ}
    (keys : (clusterEffects observations).keys.Perm
      (clusterEffects others).keys) :
    resampleClusters random others seed resample =
      mean (((List.range (clusterEffects observations).keys.length).map
        fun position => ((clusterEffects others).getD
          ((sortBy id (clusterEffects observations).keys).getD
            (random.choice seed
              (resample * (clusterEffects observations).keys.length +
                position) (clusterEffects observations).keys.length) "")
          []).map Prod.snd).flatten) := by
  have sorted : sortBy id (clusterEffects others).keys =
      sortBy id (clusterEffects observations).keys := by
    apply sortBy_eq_of_perm _ keys.symm
    rw [List.map_id]
    exact (clusterEffects others).nodup
  have length : (sortBy id (clusterEffects observations).keys).length =
      (clusterEffects observations).keys.length :=
    (sortBy_perm id _).length_eq
  rw [resampleClusters]
  simp only [sorted, length, List.map_flatten, List.map_map]
  rfl

/-- The order of the observations does not change a resample. -/
theorem resampleClusters_perm (random : Random)
    (permuted : others.Perm observations) (seed : ℤ) (resample : ℕ) :
    resampleClusters random others seed resample =
      resampleClusters random observations seed resample := by
  have keys := @clusterIds_congr observations others fun cluster => by
    simp only [permuted.mem_iff]
  rw [resampleClusters_eq keys, resampleClusters_eq (List.Perm.refl _)]
  apply mean_perm
  rw [← List.flatMap_def, ← List.flatMap_def]
  refine List.Perm.flatMap_left _ fun position _ => List.Perm.map _ ?_
  rw [getD_clusterEffects, getD_clusterEffects]
  exact (permuted.filterMap _).filter _

/-- Swapped systems negate the effect of a resample. -/
theorem resampleClusters_swapped (random : Random)
    (observations : List PairedScores) (seed : ℤ) (resample : ℕ) :
    resampleClusters random (observations.map PairedScores.swapped) seed
        resample =
      (resampleClusters random observations seed resample).map (- ·) := by
  have keys := @clusterIds_congr observations
    (observations.map PairedScores.swapped) fun cluster => by
      simp [PairedScores.swapped]
  have effects (cluster : String) :
      ((clusterEffects (observations.map PairedScores.swapped)).getD cluster
        []).map Prod.snd =
      (((clusterEffects observations).getD cluster []).map Prod.snd).map
        (- ·) := by
    let negated (pair : String × ℚ) : String × ℚ := (pair.1, -pair.2)
    have paired : (observations.map PairedScores.swapped).filterMap
        (fun row => row.documentClusterId.map fun name => (name, row.effect)) =
          (observations.filterMap fun row => row.documentClusterId.map
            fun name => (name, row.effect)).map negated := by
      rw [List.filterMap_map, List.map_filterMap]
      refine List.filterMap_congr fun row _ => ?_
      cases named : row.documentClusterId <;>
        simp [PairedScores.swapped, PairedScores.effect, negated, named]
    rw [getD_clusterEffects, getD_clusterEffects, paired, List.filter_map,
      List.map_map, List.map_map]
    rfl
  rw [resampleClusters_eq keys, resampleClusters_eq (List.Perm.refl _),
    ← mean_neg, List.map_flatten, List.map_map]
  simp only [effects]
  rfl

end Clusters

theorem resampleEffects_neg (random : Random) (effects : List ℚ) (seed : ℤ)
    (resample : ℕ) :
    resampleEffects random (effects.map (- ·)) seed resample =
      (resampleEffects random effects seed resample).map (- ·) := by
  rw [resampleEffects, resampleEffects, ← mean_neg, List.length_map,
    List.map_map]
  congr 1
  refine List.map_congr_left fun position _ => ?_
  rw [List.getD_eq_getElem?_getD, List.getElem?_map, Function.comp_apply,
    List.getD_eq_getElem?_getD]
  cases effects[random.choice seed (resample * effects.length + position)
    effects.length]? with
  | none => exact neg_zero.symm
  | some value => rfl

theorem mapM_map {α β γ : Type} (step : α → Except PyException β)
    (read : β → γ) (items : List α) :
    items.mapM (fun item => (step item).map read) =
      (items.mapM step).map (List.map read) := by
  induction items with
  | nil => rfl
  | cons item items induction =>
      rw [List.mapM_cons, List.mapM_cons, induction]
      cases step item with
      | error error => rfl
      | ok value =>
          cases items.mapM step with
          | error error => rfl
          | ok values => rfl

theorem map_bind {α β γ : Type} (first : Except PyException α)
    (next : α → Except PyException β) (read : β → γ) :
    (first >>= next).map read = first >>= fun value =>
      (next value).map read := by
  cases first <;> rfl

section Interval

variable (random : Random) {observations permuted : List PairedScores}

theorem sampleEffects_perm (same : permuted.Perm observations) (seed : ℤ)
    (resamples : ℕ) :
    sampleEffects random permuted true seed resamples =
      sampleEffects random observations true seed resamples := by
  have missing : (permuted.any fun row => row.documentClusterId = none) =
      observations.any fun row => row.documentClusterId = none := by
    rw [Bool.eq_iff_iff, List.any_eq_true, List.any_eq_true]
    simp only [same.mem_iff]
  have count : (clusterEffects permuted).keys.length =
      (clusterEffects observations).keys.length :=
    (clusterIds_congr fun cluster => by simp only [same.mem_iff]).length_eq
  have resampled : resampleClusters random permuted seed =
      resampleClusters random observations seed :=
    funext fun resample => resampleClusters_perm random same seed resample
  simp only [sampleEffects, ↓reduceIte, missing, count, resampled]

theorem sampleEffects_swapped (observations : List PairedScores)
    (clusterByDocument : Bool) (seed : ℤ) (resamples : ℕ) :
    sampleEffects random (observations.map PairedScores.swapped)
        clusterByDocument seed resamples =
      (sampleEffects random observations clusterByDocument seed
        resamples).map fun sampled => (sampled.1.map (- ·), sampled.2) := by
  have missing : ((observations.map PairedScores.swapped).any fun row =>
      row.documentClusterId = none) =
        observations.any fun row => row.documentClusterId = none := by
    rw [List.any_map]
    rfl
  have count : (clusterEffects
      (observations.map PairedScores.swapped)).keys.length =
        (clusterEffects observations).keys.length :=
    (clusterIds_congr fun cluster => by simp [PairedScores.swapped]).length_eq
  have resampled : resampleClusters random
      (observations.map PairedScores.swapped) seed = fun resample =>
        (resampleClusters random observations seed resample).map (- ·) :=
    funext fun resample =>
      resampleClusters_swapped random observations seed resample
  have effects : (observations.map PairedScores.swapped).map
      PairedScores.effect =
        (observations.map PairedScores.effect).map (- ·) := by
    rw [List.map_map, List.map_map]
    refine List.map_congr_left fun row _ => ?_
    simp [PairedScores.effect, PairedScores.swapped]
  have resampled' : resampleEffects random
      ((observations.map PairedScores.effect).map (- ·)) seed = fun resample =>
        (resampleEffects random (observations.map PairedScores.effect) seed
          resample).map (- ·) :=
    funext fun resample => resampleEffects_neg random _ seed resample
  cases clusterByDocument with
  | false =>
      simp only [sampleEffects, effects, resampled', mapM_map]
      cases (List.range resamples).mapM (resampleEffects random
        (observations.map PairedScores.effect) seed) <;> rfl
  | true =>
      simp only [sampleEffects, ↓reduceIte, missing, count, resampled,
        mapM_map, map_bind]
      cases (List.range resamples).mapM
        (resampleClusters random observations seed) <;> rfl

/-- The checks of `paired_bootstrap` before the resampling. -/
structure Accepts (observations : List PairedScores) (resamples : ℕ)
    (final clusterByDocument : Bool) (confidence : ℚ) : Prop where
  some : resamples ≠ 0
  enough : ¬(final = true ∧ resamples < 10000)
  level : 0 < confidence ∧ confidence < 1
  paired : ¬observations.length < 2
  distinct : (observations.map PairedScores.observationId).Nodup
  clustered : ¬(final = true ∧ ¬clusterByDocument = true)

/-- The steps of a call that returns. -/
structure Resampled (observations : List PairedScores) (seed : Option ℤ)
    (resamples : ℕ) (final clusterByDocument : Bool) (confidence : ℚ)
    (interval : ExactInterval) (effects : List ℚ) : Prop where
  accepts : Accepts observations resamples final clusterByDocument confidence
  seeded : seed = some interval.seed
  mean : mean (observations.map PairedScores.effect) = .ok interval.effect
  sampled : sampleEffects random observations clusterByDocument interval.seed
    resamples = .ok (effects, interval.clusterCount)
  low : percentile (sortBy id effects) ((1 - confidence) / 2) =
    .ok interval.ciLow
  high : percentile (sortBy id effects) (1 - (1 - confidence) / 2) =
    .ok interval.ciHigh
  confidence_eq : interval.confidence = confidence
  resamples_eq : interval.resamples = resamples
  method_eq : interval.method = bootstrapMethod clusterByDocument
  count_eq : interval.sampleCount = observations.length

theorem pairedBootstrap_ok {seed : Option ℤ} {resamples : ℕ}
    {final clusterByDocument : Bool} {confidence : ℚ}
    {interval : ExactInterval} :
    pairedBootstrap random observations seed resamples final clusterByDocument
        confidence = .ok interval ↔
      ∃ effects, Resampled random observations seed resamples final
        clusterByDocument confidence interval effects := by
  simp only [pairedBootstrap, bind_eq_ok, raiseIf_eq_ok, not_not]
  constructor
  · rintro ⟨number, seeded, -, some, -, enough, -, level, -, paired, -,
      distinct, -, clustered, effect, averaged, ⟨effects, count⟩, sampled, low,
      lowOk, high, highOk, built⟩
    cases Except.ok.inj built
    refine ⟨effects, ⟨some, enough, level, paired, distinct, clustered⟩, ?_,
      averaged, sampled, lowOk, highOk, rfl, rfl, rfl, rfl⟩
    cases seed with
    | none => cases seeded
    | some given => rw [Except.ok.inj seeded]
  · rintro ⟨effects, accepts, rfl, averaged, sampled, low, high, rfl, rfl,
      method, count⟩
    refine ⟨_, rfl, (), accepts.some, (), accepts.enough, (), accepts.level,
      (), accepts.paired, (), accepts.distinct, (), accepts.clustered, _,
      averaged, _, sampled, _, low, _, high, ?_⟩
    rw [← method, ← count]
    rfl

/-- Every resample has an effect. -/
theorem sampleEffects_length {clusterByDocument : Bool} {seed : ℤ}
    {resamples : ℕ} {effects : List ℚ} {count : Option ℕ}
    (sampled : sampleEffects random observations clusterByDocument seed
      resamples = .ok (effects, count)) : effects.length = resamples := by
  cases clusterByDocument with
  | false =>
      obtain ⟨values, drawn, same⟩ := bind_eq_ok.mp sampled
      cases Except.ok.inj same
      rw [← (mapM_eq_ok.mp drawn).length_eq, List.length_range]
  | true =>
      obtain ⟨_, -, sampled⟩ := bind_eq_ok.mp sampled
      obtain ⟨_, -, sampled⟩ := bind_eq_ok.mp sampled
      obtain ⟨values, drawn, same⟩ := bind_eq_ok.mp sampled
      cases Except.ok.inj same
      rw [← (mapM_eq_ok.mp drawn).length_eq, List.length_range]

end Interval

end Exact

/-- The bootstrap does not depend on the order of the observations, changes its
signs with the systems, and its interval lies within the resampled effects. -/
theorem bootstrap_symmetries {random : Random}
    {observations : List PairedScores} {seed : Option ℤ} {resamples : ℕ}
    {final clusterByDocument : Bool} {confidence : ℚ}
    {interval : ExactInterval}
    (accepted : Exact.pairedBootstrap random observations seed resamples final
      clusterByDocument confidence = .ok interval) :
    (clusterByDocument = true → ∀ permuted : List PairedScores,
        permuted.Perm observations →
          Exact.pairedBootstrap random permuted seed resamples final
            clusterByDocument confidence = .ok interval) ∧
      Exact.pairedBootstrap random (observations.map PairedScores.swapped) seed
          resamples final clusterByDocument confidence =
        .ok interval.mirrored ∧
      interval.ciLow ≤ interval.ciHigh ∧
      ∃ effects, Exact.sampleEffects random observations clusterByDocument
            interval.seed resamples = .ok (effects, interval.clusterCount) ∧
        (∃ smallest ∈ effects, smallest ≤ interval.ciLow) ∧
          ∃ largest ∈ effects, interval.ciHigh ≤ largest := by
  obtain ⟨effects, steps⟩ := (Exact.pairedBootstrap_ok random).mp accepted
  have level := steps.accepts.level
  have length := Exact.sampleEffects_length random steps.sampled
  have permuted := sortBy_perm id effects
  have nonempty : sortBy id effects ≠ [] := by
    rw [← List.length_pos_iff, permuted.length_eq, length]
    exact Nat.pos_of_ne_zero steps.accepts.some
  have alpha : 0 ≤ (1 - confidence) / 2 := by linarith
  have order : (1 - confidence) / 2 ≤ 1 - (1 - confidence) / 2 := by linarith
  have beta : 1 - (1 - confidence) / 2 ≤ 1 := by linarith
  refine ⟨?_, ?_, ?_⟩
  · rintro rfl others same
    refine (Exact.pairedBootstrap_ok random).mpr ⟨effects, ?_⟩
    have ids := same.map PairedScores.observationId
    exact
      { steps with
        accepts :=
          { steps.accepts with
            paired := same.length_eq ▸ steps.accepts.paired
            distinct := ids.nodup_iff.mpr steps.accepts.distinct }
        mean := (Exact.mean_perm (same.map _)).trans steps.mean
        sampled := (Exact.sampleEffects_perm random same _ _).trans
          steps.sampled
        count_eq := steps.count_eq.trans same.length_eq.symm }
  · refine (Exact.pairedBootstrap_ok random).mpr ⟨effects.map (- ·), ?_⟩
    have swapped : (observations.map PairedScores.swapped).map
        PairedScores.effect =
          (observations.map PairedScores.effect).map (- ·) := by
      rw [List.map_map, List.map_map]
      refine List.map_congr_left fun row _ => ?_
      simp [PairedScores.effect, PairedScores.swapped]
    have sampled := Exact.sampleEffects_swapped random observations
      clusterByDocument interval.seed resamples
    rw [steps.sampled] at sampled
    have ids : (observations.map PairedScores.swapped).map
        PairedScores.observationId =
          observations.map PairedScores.observationId := by
      rw [List.map_map]
      rfl
    have low := Exact.percentile_mirror nonempty alpha (order.trans beta)
    have high := Exact.percentile_mirror nonempty (alpha.trans order) beta
    rw [steps.high] at low
    rw [sub_sub_cancel, steps.low] at high
    exact
      { steps with
        accepts :=
          { steps.accepts with
            paired := by
              rw [List.length_map]
              exact steps.accepts.paired
            distinct := ids ▸ steps.accepts.distinct }
        mean := by rw [swapped, Exact.mean_neg, steps.mean]; rfl
        sampled := sampled
        low := by rw [Exact.sortBy_neg, low]; rfl
        high := by rw [Exact.sortBy_neg, high]; rfl
        count_eq := by rw [List.length_map]; exact steps.count_eq }
  · obtain ⟨low, high, lowOk, highOk, le, ⟨smallest, member, below⟩,
      largest, member', above⟩ := Exact.percentile_bounds nonempty
        (sortBy_pairwise id effects) alpha order beta
    cases Except.ok.inj (lowOk.symm.trans steps.low)
    cases Except.ok.inj (highOk.symm.trans steps.high)
    exact ⟨le, effects, steps.sampled,
      ⟨smallest, permuted.mem_iff.mp member, below⟩,
      largest, permuted.mem_iff.mp member', above⟩

/-- Two documents with one observation each. -/
def twoObservations : List PairedScores :=
  [⟨"first", 1, 0, some "a"⟩, ⟨"second", 1, 1 / 2, some "b"⟩]

/-- The first item is drawn every time. -/
def firstChoice : Random :=
  { choice := fun _ _ _ => 0
    choice_lt := fun _ _ _ positive => positive }

theorem bootstrap_symmetries_sample :
    Exact.pairedBootstrap firstChoice twoObservations.reverse (some 7) 1 false
        true (1 / 2) =
      .ok
        { effect := 3 / 4
          ciLow := 1
          ciHigh := 1
          confidence := 1 / 2
          resamples := 1
          seed := 7
          method := "document-cluster-paired-bootstrap"
          sampleCount := 2
          clusterCount := some 2 } := by
  have keys : (Exact.clusterEffects twoObservations).keys = ["a", "b"] := by
    decide +kernel
  have clusterIds : sortBy id ["a", "b"] = ["a", "b"] :=
    sortBy_eq_self (by decide)
  have resampled : Exact.resampleClusters firstChoice twoObservations 7 0 =
      .ok 1 := by
    rw [Exact.resampleClusters]
    simp only [keys, clusterIds]
    decide +kernel
  have sorted : sortBy id [(1 : ℚ)] = [1] := sortBy_eq_self (by simp)
  have sampled : Exact.sampleEffects firstChoice twoObservations true 7 1 =
      .ok ([1], some 2) := by
    rw [Exact.sampleEffects, if_pos rfl, raiseIf_bind (by decide)]
    dsimp only
    rw [keys, raiseIf_bind (by decide)]
    change (List.mapM _ [0] >>= _) = _
    rw [List.mapM_cons, resampled]
    rfl
  refine (bootstrap_symmetries ((Exact.pairedBootstrap_ok firstChoice).mpr
    ⟨[1], ?_⟩)).1 rfl _ (List.reverse_perm _)
  exact
    { accepts := ⟨by decide, by decide, by norm_num, by decide, by decide,
        by decide⟩
      seeded := rfl
      mean := by decide +kernel
      sampled := sampled
      low := by rw [sorted]; decide +kernel
      high := by rw [sorted]; decide +kernel
      confidence_eq := rfl
      resamples_eq := rfl
      method_eq := rfl
      count_eq := rfl }

end RagBench
