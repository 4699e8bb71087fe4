import RagBench.Evaluation.GoldAggregate
import RagBench.Evaluation.GoldRecords
import RagBench.Related

/-!
# When the gold report succeeds

Every sliceOf of the results that is averaged has to have a result, and every
sliceOf that is compared has to have the same items with the same clusters on
both sides, and at least two clusters.
-/

namespace RagBench.GoldReport

variable {arithmetic : FloatArithmetic} {random : Random}
  {platform : Platform} {floats : FloatText}
  {prereg : GoldPreregistration} {envelope : PreregistrationEnvelope}
  {rows left right : List GoldEvaluationResult} {metric : GoldMetric}
  {questionType : Option String}

/-! ## Slices -/

/-- The results of a question type, or of all types. -/
def sliceOf (rows : List GoldEvaluationResult)
    (questionType : Option String) : List GoldEvaluationResult :=
  rows.filter fun row =>
    questionType = none ∨ some row.questionType = questionType

def clusterSet (rows : List GoldEvaluationResult) : Finset String :=
  (rows.map fun row => row.documentClusterId).toFinset

theorem metricValue_isFinite (result : GoldEvaluationResult)
    (metric : GoldMetric) : (result.metricValue metric).isFinite = true := by
  have unit : ∀ value : PyFloat, isUnit value = true →
      value.isFinite = true := by
    intro value valid
    cases value with
    | finite value => rfl
    | infinity | negativeInfinity | nan => cases valid
  have amount : ∀ value : PyFloat, isAmount value = true →
      value.isFinite = true := by
    intro value valid
    cases value with
    | finite value => rfl
    | infinity | negativeInfinity | nan => cases valid
  have valid := result.valid
  simp only [GoldResultFields.isValid, GoldScores.isValid, decide_eq_true_eq]
    at valid
  obtain ⟨-, -, correctness, faithfulness, citation, abstention, latency,
    cost, hit, recalled, mrr, -⟩ := valid
  cases metric with
  | correctness => exact unit _ correctness
  | faithfulness => exact unit _ faithfulness
  | citation => exact unit _ citation
  | abstention => exact unit _ abstention
  | latency => exact amount _ latency
  | cost => exact amount _ cost
  | hit => exact unit _ hit
  | «recall» => exact unit _ recalled
  | mrr => exact unit _ mrr

/-- An identity field of a result is not blank. -/
theorem strip_ne_empty (result : GoldEvaluationResult) {text : String}
    (member : text ∈ result.identity) : strip text ≠ "" := by
  have each := List.all_eq_true.mp result.normalized text member
  rw [decide_eq_true_eq] at each
  rw [each.1]
  exact each.2

section Compare

variable (distinct : (rows.map fun row => row.itemId).Nodup)

include distinct

private theorem slice_distinct (questionType : Option String) :
    ((sliceOf rows questionType).map fun row => row.itemId).Nodup :=
  distinct.sublist ((List.filter_sublist).map _)

theorem rowsById_keys (questionType : Option String) :
    (rowsById rows questionType).keys =
      (sliceOf rows questionType).map fun row => row.itemId := by
  have keys : ((sliceOf rows questionType).map fun row =>
      (row.itemId, row)).map Prod.fst =
        (sliceOf rows questionType).map fun row => row.itemId := by
    rw [List.map_map]
    rfl
  have entries := Dict.entries_ofList
    (keys ▸ slice_distinct distinct questionType)
  rw [rowsById, Dict.keys]
  exact (congrArg (List.map Prod.fst) entries).trans keys

theorem rowsById_get? {row : GoldEvaluationResult} {itemId : String} :
    (rowsById rows questionType).get? itemId = some row ↔
      row ∈ sliceOf rows questionType ∧ row.itemId = itemId := by
  have keys : ((sliceOf rows questionType).map fun row =>
      (row.itemId, row)).map Prod.fst =
        (sliceOf rows questionType).map fun row => row.itemId := by
    rw [List.map_map]
    rfl
  have entries := Dict.entries_ofList
    (keys ▸ slice_distinct distinct questionType)
  rw [Dict.get?_eq_some_iff, rowsById]
  refine (Eq.to_iff (congrArg ((itemId, row) ∈ ·) entries)).trans ?_
  rw [List.mem_map]
  constructor
  · rintro ⟨other, member, same⟩
    obtain ⟨rfl, rfl⟩ := Prod.mk.inj same
    exact ⟨member, rfl⟩
  · rintro ⟨member, rfl⟩
    exact ⟨row, member, rfl⟩

end Compare

/-! ## Comparisons -/

/-- Both sides have the same items with the same clusters, and there are at
least two clusters. -/
structure IsComparable (left right : List GoldEvaluationResult) : Prop where
  sameItems : itemSet left = itemSet right
  sameClusters : ∀ first ∈ left, ∀ second ∈ right,
    first.itemId = second.itemId →
      first.documentClusterId = second.documentClusterId
  several : 2 ≤ (clusterSet left).card

/-- An observation is of its item and the cluster on the left. -/
theorem observationOf_spec {left right : Dict String GoldEvaluationResult}
    {itemId : String} {row : PairedObservation}
    (success : observationOf left right metric itemId = .ok row) :
    row.observationId = itemId ∧
      row.documentClusterId = clusterAt left itemId ∧
      row.documentClusterId ≠ none := by
  obtain ⟨first, found, success⟩ := bind_eq_ok.mp success
  obtain ⟨second, -, success⟩ := bind_eq_ok.mp success
  obtain ⟨_, -, success⟩ := bind_eq_ok.mp success
  obtain ⟨_, -, success⟩ := bind_eq_ok.mp success
  obtain ⟨_, -, success⟩ := bind_eq_ok.mp success
  cases success
  refine ⟨rfl, ?_, Option.some_ne_none _⟩
  unfold entryAt at found
  unfold clusterAt
  cases present : left.get? itemId with
  | some value =>
      rw [present] at found
      obtain rfl := Except.ok.inj found
      rfl
  | none =>
      rw [present] at found
      cases found

section Compare

variable (leftDistinct : (left.map fun row => row.itemId).Nodup)
  (rightDistinct : (right.map fun row => row.itemId).Nodup)

include leftDistinct rightDistinct

theorem observationOf_ok {first second : GoldEvaluationResult}
    (inLeft : first ∈ sliceOf left questionType)
    (inRight : second ∈ sliceOf right questionType)
    (same : second.itemId = first.itemId) :
    observationOf (rowsById left questionType) (rowsById right questionType)
        metric first.itemId =
      .ok
        { observationId := first.itemId
          left := first.metricValue metric
          right := second.metricValue metric
          documentClusterId := some first.documentClusterId } := by
  unfold observationOf entryAt
  rw [(rowsById_get? leftDistinct).mpr ⟨inLeft, rfl⟩,
    (rowsById_get? rightDistinct).mpr ⟨inRight, same⟩]
  change PairedObservation.validate _ = _
  unfold PairedObservation.validate
  rw [raiseIf_bind (strip_ne_empty first (by
      simp [GoldResultFields.identity])),
    raiseIf_bind (by simp [metricValue_isFinite]),
    raiseIf_bind (by
      simpa using strip_ne_empty first (by simp [GoldResultFields.identity]))]
  rfl

/-- The observations of two slices with the same items. -/
theorem observations_ok (metric : GoldMetric)
    (sameItems : itemSet (sliceOf left questionType) =
      itemSet (sliceOf right questionType)) :
    ∃ observations,
      (sortBy id (rowsById left questionType).keys).mapM
          (observationOf (rowsById left questionType)
            (rowsById right questionType) metric) = .ok observations ∧
      (∀ row ∈ observations, row.documentClusterId ≠ none) ∧
      (observations.map PairedObservation.observationId).Nodup ∧
      clustersOf observations = clusterSet (sliceOf left questionType) := by
  have keys := rowsById_keys leftDistinct questionType
  have found : ∀ itemId ∈ sortBy id (rowsById left questionType).keys,
      ∃ row, observationOf (rowsById left questionType)
        (rowsById right questionType) metric itemId = .ok row := by
    intro itemId member
    rw [(sortBy_perm _ _).mem_iff, keys] at member
    obtain ⟨first, inLeft, rfl⟩ := List.mem_map.mp member
    have shared : first.itemId ∈ itemSet (sliceOf right questionType) :=
      sameItems ▸ List.mem_toFinset.mpr member
    obtain ⟨second, inRight, same⟩ :=
      List.mem_map.mp (List.mem_toFinset.mp shared)
    exact ⟨_, observationOf_ok leftDistinct rightDistinct inLeft inRight same⟩
  obtain ⟨observations, mapped⟩ := exists_mapM_iff.mpr found
  have related := mapM_eq_ok.mp mapped
  have named : observations.map PairedObservation.observationId =
      (sortBy id (rowsById left questionType).keys).map id :=
    map_eq_of_forall₂ id PairedObservation.observationId
      (fun _ _ success => (observationOf_spec success).1) related
  have clusters : observations.map PairedObservation.documentClusterId =
      (sortBy id (rowsById left questionType).keys).map
        (clusterAt (rowsById left questionType)) :=
    map_eq_of_forall₂ _ PairedObservation.documentClusterId
      (fun _ _ success => (observationOf_spec success).2.1) related
  refine ⟨observations, mapped, fun row member => ?_, ?_, ?_⟩
  · obtain ⟨_, -, success⟩ := exists_left_of_forall₂ related member
    exact (observationOf_spec success).2.2
  · rw [named, List.map_id, (sortBy_perm _ _).nodup_iff, keys]
    exact slice_distinct leftDistinct questionType
  · ext cluster
    have listed : cluster ∈ clustersOf observations ↔
        some cluster ∈ observations.map
          PairedObservation.documentClusterId := by
      rw [clustersOf, List.mem_toFinset, List.mem_filterMap, List.mem_map]
    rw [listed, clusters, List.mem_map, clusterSet, List.mem_toFinset,
      List.mem_map]
    constructor
    · rintro ⟨itemId, -, at_cluster⟩
      obtain ⟨row, present, rfl⟩ := Option.map_eq_some_iff.mp at_cluster
      exact ⟨row, ((rowsById_get? leftDistinct).mp present).1, rfl⟩
    · rintro ⟨row, member, rfl⟩
      refine ⟨row.itemId, ?_, ?_⟩
      · rw [(sortBy_perm _ _).mem_iff, keys]
        exact List.mem_map_of_mem member
      · rw [clusterAt, (rowsById_get? leftDistinct).mpr ⟨member, rfl⟩]
        rfl

/-- The clusters are compared at every item of the left side. -/
theorem clusters_agree_iff
    (sameItems : itemSet (sliceOf left questionType) =
      itemSet (sliceOf right questionType)) :
    ¬ ((rowsById left questionType).keys.any fun itemId =>
        clusterAt (rowsById left questionType) itemId ≠
          clusterAt (rowsById right questionType) itemId) ↔
      ∀ first ∈ sliceOf left questionType, ∀ second ∈ sliceOf right questionType,
        first.itemId = second.itemId →
          first.documentClusterId = second.documentClusterId := by
  rw [Bool.not_eq_true, List.any_eq_false]
  simp only [decide_eq_true_eq, ne_eq, not_not]
  rw [rowsById_keys leftDistinct, List.forall_mem_map]
  refine forall₂_congr fun first inLeft => ?_
  have atLeft : clusterAt (rowsById left questionType) first.itemId =
      some first.documentClusterId := by
    rw [clusterAt, (rowsById_get? leftDistinct).mpr ⟨inLeft, rfl⟩]
    rfl
  have atRight : ∀ second ∈ sliceOf right questionType,
      first.itemId = second.itemId →
      clusterAt (rowsById right questionType) first.itemId =
        some second.documentClusterId := by
    intro second inRight same
    rw [clusterAt, (rowsById_get? rightDistinct).mpr ⟨inRight, same.symm⟩]
    rfl
  rw [atLeft]
  constructor
  · intro agree second inRight same
    exact Option.some_inj.mp (agree.trans (atRight second inRight same))
  · intro agree
    have shared : first.itemId ∈ itemSet (sliceOf right questionType) :=
      sameItems ▸ List.mem_toFinset.mpr (List.mem_map_of_mem inLeft)
    obtain ⟨second, inRight, same⟩ :=
      List.mem_map.mp (List.mem_toFinset.mp shared)
    rw [atRight second inRight same.symm, agree second inRight same.symm]

/-- A comparison of two slices succeeds when they are comparable. -/
theorem compare_ok_iff {leftPublicId rightPublicId : String}
    (leftHex : isHexDigest leftPublicId = true)
    (rightHex : isHexDigest rightPublicId = true) :
    (∃ comparison, compare arithmetic random left right metric questionType
        prereg leftPublicId rightPublicId = .ok comparison) ↔
      IsComparable (sliceOf left questionType) (sliceOf right questionType) := by
  have keys : (rowsById left questionType).keys.toFinset =
        itemSet (sliceOf left questionType) ∧
      (rowsById right questionType).keys.toFinset =
        itemSet (sliceOf right questionType) := by
    rw [rowsById_keys leftDistinct, rowsById_keys rightDistinct]
    exact ⟨rfl, rfl⟩
  constructor
  · rintro ⟨comparison, success⟩
    obtain ⟨_, sameKeys, success⟩ := bind_eq_ok.mp success
    obtain ⟨observations, mapped, success⟩ := bind_eq_ok.mp success
    obtain ⟨_, agree, success⟩ := bind_eq_ok.mp success
    obtain ⟨interval, resampled, -⟩ := bind_eq_ok.mp success
    have sameItems := not_not.mp (raiseIf_eq_ok.mp sameKeys)
    rw [keys.1, keys.2] at sameItems
    obtain ⟨observations', mapped', -, -, clusters⟩ :=
      observations_ok leftDistinct rightDistinct metric sameItems
    obtain rfl := Except.ok.inj (mapped.symm.trans mapped')
    refine ⟨sameItems, (clusters_agree_iff leftDistinct rightDistinct
      sameItems).mp (raiseIf_eq_ok.mp agree), ?_⟩
    rw [← clusters]
    exact clusters_of_pairedBootstrap arithmetic random resampled
  · rintro ⟨sameItems, sameClusters, several⟩
    obtain ⟨observations, mapped, identified, distinct, clusters⟩ :=
      observations_ok leftDistinct rightDistinct metric sameItems
    rw [← clusters] at several
    obtain ⟨interval, resampled, sampleCount, clusterCount, resamples⟩ :=
      pairedBootstrap_ok arithmetic random identified distinct
        prereg.bootstrap.enough several
    have some : 0 < observations.length :=
      Nat.lt_of_lt_of_le Nat.zero_lt_two ((several.trans
        (List.toFinset_card_le _)).trans (List.length_filterMap_le _ _))
    unfold compare
    dsimp only
    rw [raiseIf_bind (not_not.mpr (by rw [keys.1, keys.2, sameItems])), mapped]
    change ∃ comparison, (raiseIf _ _ >>= fun _ => _) = _
    rw [raiseIf_bind ((clusters_agree_iff leftDistinct rightDistinct
      sameItems).mpr sameClusters), resampled]
    change ∃ comparison, (requireClusterCount interval.clusterCount >>=
      fun _ => _) = _
    rw [clusterCount]
    change ∃ comparison, GoldPairedComparison.validate _ = _
    unfold GoldPairedComparison.validate
    rw [if_pos ⟨leftHex, rightHex, by rw [resamples]; exact
      prereg.bootstrap.enough, by rw [sampleCount]; exact some, several⟩]
    exact ⟨_, rfl⟩

end Compare

/-! ## Averages -/

theorem aggregateOf_ok_iff {publicId : String}
    (hex : isHexDigest publicId = true) :
    (∃ aggregate, aggregateOf arithmetic publicId metric rows =
      .ok aggregate) ↔ rows ≠ [] := by
  constructor
  · rintro ⟨aggregate, success⟩ rfl
    obtain ⟨average, averaged, -⟩ := bind_eq_ok.mp success
    exact mean_ok.mp ⟨average, averaged⟩ rfl
  · intro nonempty
    obtain ⟨average, averaged⟩ : ∃ average, mean arithmetic
        (rows.map fun row => row.metricValue metric) = .ok average :=
      mean_ok.mpr fun empty => nonempty (List.map_eq_nil_iff.mp empty)
    have valid : isHexDigest publicId = true ∧ 0 < rows.length :=
      ⟨hex, List.length_pos_of_ne_nil nonempty⟩
    exact ⟨_, bind_eq_ok.mpr ⟨average, averaged, if_pos valid⟩⟩

theorem typeAggregateOf_ok_iff {publicId type : String}
    (hex : isHexDigest publicId = true) :
    (∃ aggregate, typeAggregateOf arithmetic publicId metric rows type =
      .ok aggregate) ↔ ∃ row ∈ rows, row.questionType = type := by
  have averages : (∃ aggregate, aggregateOf arithmetic publicId metric
      (rows.filter fun row => row.questionType = type) = .ok aggregate) ↔
        ∃ row ∈ rows, row.questionType = type := by
    rw [aggregateOf_ok_iff hex, Ne, List.filter_eq_nil_iff]
    simp
  rw [← averages]
  constructor
  · rintro ⟨_, success⟩
    obtain ⟨aggregate, averaged, -⟩ := bind_eq_ok.mp success
    exact ⟨aggregate, averaged⟩
  · rintro ⟨aggregate, averaged⟩
    exact ⟨_, bind_eq_ok.mpr ⟨aggregate, averaged, rfl⟩⟩

/-- Every average of a configuration is over some result. -/
theorem metricAggregates_ok_iff {publicId : String} {types : List String}
    (hex : isHexDigest publicId = true) :
    (∃ aggregates, metricAggregates arithmetic publicId rows types metric =
      .ok aggregates) ↔
      rows ≠ [] ∧ ∀ type ∈ types, ∃ row ∈ rows, row.questionType = type := by
  constructor
  · rintro ⟨_, success⟩
    obtain ⟨overall, averaged, success⟩ := bind_eq_ok.mp success
    obtain ⟨byType, mapped, -⟩ := bind_eq_ok.mp success
    exact ⟨(aggregateOf_ok_iff hex).mp ⟨overall, averaged⟩, fun type member =>
      (typeAggregateOf_ok_iff hex).mp
        (exists_mapM_iff.mp ⟨byType, mapped⟩ type member)⟩
  · rintro ⟨nonempty, typed⟩
    obtain ⟨overall, averaged⟩ := (aggregateOf_ok_iff hex).mpr nonempty
    obtain ⟨byType, mapped⟩ := exists_mapM_iff.mpr fun type member =>
      (typeAggregateOf_ok_iff hex).mpr (typed type member)
    exact ⟨_, bind_eq_ok.mpr ⟨overall, averaged,
      bind_eq_ok.mpr ⟨byType, mapped, rfl⟩⟩⟩

/-! ## Tables by configuration -/

/-- The results of a configuration. -/
def rowsOf (rows : List GoldEvaluationResult) (configHash : String) :
    List GoldEvaluationResult :=
  rows.filter fun row => row.configHash = configHash

theorem entryAt_ofList {ν : Type} {pairs : List (String × ν)} {key : String}
    {value : ν} (distinct : (pairs.map Prod.fst).Nodup)
    (member : (key, value) ∈ pairs) :
    entryAt (.ofList pairs) key = .ok value := by
  have found : (Dict.ofList pairs).get? key = some value := by
    rw [Dict.get?_eq_some_iff]
    exact (congrArg ((key, value) ∈ ·) (Dict.entries_ofList distinct)).mpr
      member
  rw [entryAt, found]

section Tables

variable (prereg)

theorem byConfigOf_values (rows : List GoldEvaluationResult) :
    (byConfigOf prereg.configHashes rows).values =
      prereg.configHashes.map (rowsOf rows) := by
  have keys : (prereg.configHashes.map fun configHash =>
      (configHash, rows.filter fun row =>
        row.configHash = configHash)).map Prod.fst = prereg.configHashes := by
    rw [List.map_map]
    exact List.map_id _
  have entries := Dict.entries_ofList (keys.symm ▸ prereg.unique)
  rw [byConfigOf, Dict.values]
  refine (congrArg (List.map Prod.snd) entries).trans ?_
  rw [List.map_map]
  rfl

theorem byConfigOf_entryAt (rows : List GoldEvaluationResult)
    {configHash : String} (registered : configHash ∈ prereg.configHashes) :
    entryAt (byConfigOf prereg.configHashes rows) configHash =
      .ok (rowsOf rows configHash) := by
  refine entryAt_ofList ?_
    (List.mem_map.mpr ⟨configHash, registered, rfl⟩)
  rw [List.map_map]
  exact (List.map_id _).symm ▸ prereg.unique

end Tables

private theorem all_equal_iff {α : Type} [DecidableEq α] (items : List α)
    (default : α) :
    ¬ (items.tail.any fun item => item ≠ items.headD default) ↔
      ∀ first ∈ items, ∀ second ∈ items, first = second := by
  cases items with
  | nil => simp
  | cons head tail =>
      rw [List.tail_cons, List.headD_cons, Bool.not_eq_true,
        List.any_eq_false]
      simp only [ne_eq, decide_not, Bool.not_eq_eq_eq_not, Bool.not_true,
        decide_eq_false_iff_not, not_not]
      constructor
      · intro same
        have each : ∀ item ∈ head :: tail, item = head :=
          List.forall_mem_cons.mpr ⟨rfl, same⟩
        intro first member second member'
        rw [each first member, each second member']
      · intro same item member
        exact same item (.tail _ member) head List.mem_cons_self

/-- The cohorts do not differ when every configuration has as many results as
there are items, all for the same items. -/
theorem cohortsDiffer_iff {itemCount : ℕ} :
    ¬ cohortsDiffer itemCount (byConfigOf prereg.configHashes rows) ↔
      (∀ configHash ∈ prereg.configHashes,
        (rowsOf rows configHash).length = itemCount) ∧
      ∀ first ∈ prereg.configHashes, ∀ second ∈ prereg.configHashes,
        itemSet (rowsOf rows first) = itemSet (rowsOf rows second) := by
  unfold cohortsDiffer
  dsimp only
  rw [decide_eq_true_eq, not_or, byConfigOf_values, List.map_map,
    all_equal_iff]
  refine and_congr ?_ ?_
  · simp
  · rw [List.forall_mem_map]
    exact forall₂_congr fun _ _ => List.forall_mem_map

/-! ## The report -/

/-- Public ids for the configurations. -/
def HasPublicIds (prereg : GoldPreregistration)
    (publicIds : Dict String String) : Prop :=
  ∀ configHash ∈ prereg.configHashes, ∃ publicId,
    entryAt publicIds configHash = .ok publicId ∧ isHexDigest publicId = true

theorem publicIdsOf_ok (hashes : platform.HashesCanonically floats)
    (hex : ∀ bytes, isHexDigest (platform.sha256Hex bytes) = true)
    (prereg : GoldPreregistration) (salt : String) :
    ∃ publicIds, publicIdsOf platform salt prereg.configHashes =
        .ok publicIds ∧ HasPublicIds prereg publicIds := by
  have each : ∀ configHash, ∃ publicId,
      publicIdOf platform salt configHash = .ok publicId ∧
        isHexDigest publicId = true := fun configHash =>
    hashed_object hashes hex [("salt", salt), ("config", configHash)]
  choose publicId success digest using each
  have mapped : prereg.configHashes.mapM (publicIdOf platform salt) =
      .ok (prereg.configHashes.map publicId) := by
    refine mapM_eq_ok.mpr ?_
    rw [List.forall₂_map_right_iff, List.forall₂_same]
    exact fun configHash _ => success configHash
  have zipped : prereg.configHashes.zip (prereg.configHashes.map publicId) =
      prereg.configHashes.map fun configHash =>
        (configHash, publicId configHash) := by
    have pairs := List.zip_map' (f := id) (g := publicId)
      (l := prereg.configHashes)
    rwa [List.map_id] at pairs
  refine ⟨_, bind_eq_ok.mpr ⟨_, mapped, rfl⟩, fun configHash member =>
    ⟨publicId configHash, ?_, digest configHash⟩⟩
  rw [zipped]
  refine entryAt_ofList ?_ (List.mem_map.mpr ⟨configHash, member, rfl⟩)
  rw [List.map_map]
  exact (List.map_id _).symm ▸ prereg.unique

theorem mem_typesOf {type : String} :
    type ∈ typesOf rows ↔ ∃ row ∈ rows, row.questionType = type := by
  rw [typesOf, (sortBy_perm _ _).mem_iff, List.mem_dedup, List.mem_map]

/-- What the checks of the report ask of the results. -/
structure IsAggregable (prereg : GoldPreregistration)
    (rows : List GoldEvaluationResult) : Prop where
  complete : ∀ configHash ∈ prereg.configHashes,
    (rowsOf rows configHash).length = prereg.cohort.itemCount
  sameItems : ∀ first ∈ prereg.configHashes, ∀ second ∈ prereg.configHashes,
    itemSet (rowsOf rows first) = itemSet (rowsOf rows second)
  typed : ∀ row ∈ rows, ∀ configHash ∈ prereg.configHashes,
    ∃ other ∈ rowsOf rows configHash, other.questionType = row.questionType
  compared : ∀ questionType ∈ none :: (typesOf rows).map some,
    IsComparable
      (sliceOf (rowsOf rows prereg.primaryComparison.leftConfigHash)
        questionType)
      (sliceOf (rowsOf rows prereg.primaryComparison.rightConfigHash)
        questionType)

section Report

variable (registered : ∀ row ∈ rows, row.configHash ∈ prereg.configHashes)

include registered in
/-- The results of the three configurations are all results. -/
theorem length_of_complete {itemCount : ℕ}
    (complete : ∀ configHash ∈ prereg.configHashes,
      (rowsOf rows configHash).length = itemCount) :
    rows.length = itemCount * 3 := by
  have parts := (flatMap_filter_perm
    (fun row : GoldEvaluationResult => row.configHash) prereg.unique
    registered).length_eq
  rw [List.length_flatMap] at parts
  have sizes : prereg.configHashes.map (fun configHash =>
      (rows.filter fun row => row.configHash = configHash).length) =
        prereg.configHashes.map fun _ => itemCount :=
    List.map_congr_left complete
  rw [← parts, sizes, List.map_const', List.sum_replicate, prereg.three]
  exact mul_comm _ _

variable (distinct : (rows.map fun row =>
  (row.configHash, row.itemId)).Nodup)

include distinct

theorem rowsOf_distinct (configHash : String) :
    ((rowsOf rows configHash).map fun row => row.itemId).Nodup := by
  refine List.pairwise_map.mpr (((List.pairwise_map.mp distinct).filter
    _).imp_of_mem ?_)
  intro first second member member' other same
  have config := of_decide_eq_true (List.mem_filter.mp member).2
  have config' := of_decide_eq_true (List.mem_filter.mp member').2
  exact other (Prod.ext (config.trans config'.symm) same)

end Report

theorem configAggregates_ok_iff {publicIds : Dict String String}
    (hasIds : HasPublicIds prereg publicIds) {types : List String}
    {configHash : String} (listed : configHash ∈ prereg.configHashes) :
    (∃ aggregates, configAggregates arithmetic publicIds
        (byConfigOf prereg.configHashes rows) types configHash =
          .ok aggregates) ↔
      rowsOf rows configHash ≠ [] ∧ ∀ type ∈ types,
        ∃ row ∈ rowsOf rows configHash, row.questionType = type := by
  obtain ⟨publicId, found, hex⟩ := hasIds configHash listed
  unfold configAggregates
  rw [byConfigOf_entryAt prereg rows listed]
  change (∃ aggregates, (entryAt publicIds configHash >>= fun _ => _) = _) ↔ _
  rw [found]
  change (∃ aggregates, GoldMetric.all.mapM (metricAggregates arithmetic
    publicId (rowsOf rows configHash) types) = .ok aggregates) ↔ _
  rw [exists_mapM_iff]
  simp only [metricAggregates_ok_iff hex]
  exact ⟨fun each => each .correctness List.mem_cons_self, fun both _ _ => both⟩

theorem comparePrimary_ok_iff {publicIds : Dict String String}
    (hasIds : HasPublicIds prereg publicIds)
    (distinct : (rows.map fun row => (row.configHash, row.itemId)).Nodup)
    (key : GoldMetric × Option String) :
    (∃ comparison, comparePrimary arithmetic random publicIds
        (byConfigOf prereg.configHashes rows) prereg key =
          .ok comparison) ↔
      IsComparable
        (sliceOf (rowsOf rows prereg.primaryComparison.leftConfigHash) key.2)
        (sliceOf (rowsOf rows prereg.primaryComparison.rightConfigHash)
          key.2) := by
  obtain ⟨leftId, leftFound, leftHex⟩ := hasIds _ prereg.frozen.1
  obtain ⟨rightId, rightFound, rightHex⟩ := hasIds _ prereg.frozen.2
  unfold comparePrimary
  dsimp only
  rw [byConfigOf_entryAt prereg rows prereg.frozen.1,
    byConfigOf_entryAt prereg rows prereg.frozen.2, leftFound, rightFound]
  exact compare_ok_iff (rowsOf_distinct distinct _)
    (rowsOf_distinct distinct _) leftHex rightHex

theorem forall_comparisonKeys {types : List String}
    {holds : Option String → Prop} :
    (∀ key ∈ comparisonKeys types, holds key.2) ↔
      ∀ questionType ∈ none :: types.map some, holds questionType := by
  constructor
  · intro each questionType member
    exact each (.correctness, questionType) (List.mem_flatMap.mpr
      ⟨.correctness, List.mem_cons_self, List.mem_map_of_mem member⟩)
  · intro each key member
    obtain ⟨metric, -, member⟩ := List.mem_flatMap.mp member
    obtain ⟨questionType, listed, rfl⟩ := List.mem_map.mp member
    exact each questionType listed

/-- The report succeeds exactly when every sliceOf can be averaged and
compared. -/
theorem reportOf_ok_iff (hashes : platform.HashesCanonically floats)
    (hex : ∀ bytes, isHexDigest (platform.sha256Hex bytes) = true)
    (registered : ∀ row ∈ rows,
      row.configHash ∈ envelope.preregistration.configHashes)
    (distinct : (rows.map fun row => (row.configHash, row.itemId)).Nodup)
    (salt : String) :
    (∃ report, reportOf arithmetic random platform envelope salt rows =
      .ok report) ↔ IsAggregable envelope.preregistration rows := by
  obtain ⟨publicIds, hashed, hasIds⟩ :=
    publicIdsOf_ok hashes hex envelope.preregistration salt
  constructor
  · rintro ⟨report, success⟩
    obtain ⟨_, -, success⟩ := bind_eq_ok.mp success
    obtain ⟨_, cohorts, success⟩ := bind_eq_ok.mp success
    obtain ⟨publicIds', hashed', success⟩ := bind_eq_ok.mp success
    obtain rfl := Except.ok.inj (hashed.symm.trans hashed')
    obtain ⟨aggregates, averaged, success⟩ := bind_eq_ok.mp success
    obtain ⟨comparisons, compared, -⟩ := bind_eq_ok.mp success
    obtain ⟨complete, sameItems⟩ :=
      cohortsDiffer_iff.mp (raiseIf_eq_ok.mp cohorts)
    refine ⟨complete, sameItems, fun row member configHash listed => ?_, ?_⟩
    · exact ((configAggregates_ok_iff hasIds listed).mp
        (exists_mapM_iff.mp ⟨_, averaged⟩ configHash listed)).2 _
          (mem_typesOf.mpr ⟨row, member, rfl⟩)
    · refine forall_comparisonKeys.mp fun key member => ?_
      exact (comparePrimary_ok_iff hasIds distinct key).mp
        (exists_mapM_iff.mp ⟨_, compared⟩ key member)
  · rintro ⟨complete, sameItems, typed, compared⟩
    have positive : 0 < envelope.preregistration.cohort.itemCount := by
      rcases envelope.preregistration.cohort.itemCount_literal with
        count | count <;> omega
    have nonempty : ∀ configHash ∈ envelope.preregistration.configHashes,
        rowsOf rows configHash ≠ [] := by
      intro configHash listed
      rw [← List.length_pos_iff, complete configHash listed]
      exact positive
    obtain ⟨aggregates, averaged⟩ : ∃ aggregates,
        envelope.preregistration.configHashes.mapM
          (configAggregates arithmetic publicIds
            (byConfigOf envelope.preregistration.configHashes rows)
            (typesOf rows)) = .ok aggregates := by
      refine exists_mapM_iff.mpr fun configHash listed =>
        (configAggregates_ok_iff hasIds listed).mpr
          ⟨nonempty configHash listed, fun type member => ?_⟩
      obtain ⟨row, known, rfl⟩ := mem_typesOf.mp member
      exact typed row known configHash listed
    obtain ⟨comparisons, compared⟩ : ∃ comparisons,
        (comparisonKeys (typesOf rows)).mapM
          (comparePrimary arithmetic random publicIds
            (byConfigOf envelope.preregistration.configHashes rows)
            envelope.preregistration) = .ok comparisons :=
      exists_mapM_iff.mpr fun key member =>
        (comparePrimary_ok_iff hasIds distinct key).mpr
          (forall_comparisonKeys.mpr compared key member)
    obtain ⟨preregistrationId, preregistrationHash, preregistrationHex⟩ :=
      hashed_object hashes hex [("salt", salt),
        ("preregistration", envelope.artifactSha256)]
    obtain ⟨cohortId, cohortHash, cohortHex⟩ :=
      hashed_object hashes hex [("salt", salt),
        ("cohort", envelope.preregistration.cohort.snapshotId),
        ("content", envelope.preregistration.cohort.contentSha256)]
    unfold reportOf
    dsimp only
    rw [raiseIf_bind (not_not.mpr (length_of_complete registered complete)),
      raiseIf_bind (cohortsDiffer_iff.mpr ⟨complete, sameItems⟩), hashed]
    change ∃ report, (envelope.preregistration.configHashes.mapM
      (configAggregates arithmetic publicIds
        (byConfigOf envelope.preregistration.configHashes rows)
        (typesOf rows)) >>= fun _ => _) = _
    exact ⟨_, bind_eq_ok.mpr ⟨_, averaged, bind_eq_ok.mpr ⟨_, compared,
      bind_eq_ok.mpr ⟨_, preregistrationHash, bind_eq_ok.mpr
        ⟨_, cohortHash, if_pos ⟨preregistrationHex, cohortHex⟩⟩⟩⟩⟩⟩

end RagBench.GoldReport
