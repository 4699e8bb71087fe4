import RagBench.Evaluation.GoldCohort

/-!
# Aggregation and the preregistered cohort

The aggregation compares the configurations with each other, not with the
preregistered cohort, and the question types and clusters only of the two
configurations of the primary comparison.
-/

namespace RagBench

open GoldResultRepository GoldReport

variable {arithmetic : FloatArithmetic} {random : Random}
  {platform : Platform} {floats : FloatText}
  {envelope : PreregistrationEnvelope} {cohort : List String}
  {repository : GoldResultRepository} {salt : String}
  {rows : List GoldEvaluationResult}

/-- The ids whose ordered membership hash is preregistered. -/
structure IsMembership (platform : Platform) (prereg : GoldPreregistration)
    (cohort : List String) : Prop where
  membership : platform.canonicalJsonHash (.array (cohort.map .str)) =
    .ok prereg.cohort.orderedMembershipHash
  itemCount : cohort.length = prereg.cohort.itemCount
  unique : cohort.Nodup

/-- Results of one item have one question type and one cluster. -/
def SameStratum (first second : GoldEvaluationResult) : Prop :=
  first.itemId = second.itemId →
    first.questionType = second.questionType ∧
      first.documentClusterId = second.documentClusterId

section

variable (platform envelope cohort repository)

/-- Every configuration has results for exactly the cohort, and the
configurations agree on each item. -/
structure MatchesCohort : Prop where
  exact : ∀ configHash ∈ envelope.preregistration.configHashes,
    ∀ itemId, itemId ∈ cohort ↔ ∃ row,
      IsStored platform (manifestOf envelope) repository row ∧
        row.configHash = configHash ∧ row.itemId = itemId
  sameStrata : ∀ first second,
    IsStored platform (manifestOf envelope) repository first →
    IsStored platform (manifestOf envelope) repository second →
    SameStratum first second

/-- No result is of a foreign item, and the configuration that is not compared
agrees with the compared ones on each item. -/
structure StaysInCohort : Prop where
  inside : ∀ row, IsStored platform (manifestOf envelope) repository row →
    row.itemId ∈ cohort
  third : ∀ row other,
    IsStored platform (manifestOf envelope) repository row →
    IsStored platform (manifestOf envelope) repository other →
    row.configHash ≠
        envelope.preregistration.primaryComparison.leftConfigHash →
    row.configHash ≠
        envelope.preregistration.primaryComparison.rightConfigHash →
    other.configHash =
        envelope.preregistration.primaryComparison.leftConfigHash →
    SameStratum row other

/-- The checks that the aggregation makes on the store. -/
structure PassesChecks (salt : String) : Prop where
  salted : strip salt ≠ ""
  verified : verifyEnvelopeHash platform envelope = .ok ()
  uninvalidated : repository.invalidations = .ok []
  aggregable : ∀ rows, repository.allResults platform = .ok rows →
    IsAggregable envelope.preregistration rows

end

/-! ## Results that pass the checks -/

section Aggregable

variable {prereg : GoldPreregistration}
  (aggregable : IsAggregable prereg rows)
  (registered : ∀ row ∈ rows, row.configHash ∈ prereg.configHashes)
  (distinct : (rows.map fun row => (row.configHash, row.itemId)).Nodup)

include distinct in
theorem eq_of_same_item {first second : GoldEvaluationResult}
    (member : first ∈ rows) (member' : second ∈ rows)
    (config : first.configHash = second.configHash)
    (same : first.itemId = second.itemId) : first = second :=
  List.inj_on_of_nodup_map distinct member member' (Prod.ext config same)

include aggregable

include registered in
/-- Every item of a configuration is an item of every other one. -/
theorem GoldReport.IsAggregable.exists_row {row : GoldEvaluationResult}
    (member : row ∈ rows) {configHash : String}
    (listed : configHash ∈ prereg.configHashes) :
    ∃ other ∈ rows, other.configHash = configHash ∧
      other.itemId = row.itemId := by
  have inside : row.itemId ∈ itemSet (rowsOf rows row.configHash) :=
    List.mem_toFinset.mpr (List.mem_map_of_mem (mem_rowsOf.mpr ⟨member, rfl⟩))
  rw [aggregable.sameItems _ (registered row member) _ listed] at inside
  obtain ⟨other, found, same⟩ :=
    List.mem_map.mp (List.mem_toFinset.mp inside)
  obtain ⟨member', config⟩ := mem_rowsOf.mp found
  exact ⟨other, member', config, same⟩

include distinct in
/-- The compared configurations agree on each item. -/
theorem GoldReport.IsAggregable.compared_strata
    {row other : GoldEvaluationResult}
    (member : row ∈ rows)
    (right : row.configHash = prereg.primaryComparison.rightConfigHash)
    (member' : other ∈ rows)
    (left : other.configHash = prereg.primaryComparison.leftConfigHash) :
    SameStratum row other := by
  intro same
  have typed : row ∈ sliceOf
      (rowsOf rows prereg.primaryComparison.rightConfigHash)
      (some row.questionType) :=
    mem_slice.mpr ⟨mem_rowsOf.mpr ⟨member, right⟩, .inr rfl⟩
  have compared := aggregable.compared (some row.questionType) (.tail _
    (List.mem_map_of_mem (mem_typesOf.mpr ⟨row, member, rfl⟩)))
  have inside : row.itemId ∈ itemSet (sliceOf
      (rowsOf rows prereg.primaryComparison.leftConfigHash)
      (some row.questionType)) := by
    rw [compared.sameItems]
    exact List.mem_toFinset.mpr (List.mem_map_of_mem typed)
  obtain ⟨found, inSlice, same'⟩ :=
    List.mem_map.mp (List.mem_toFinset.mp inside)
  obtain ⟨inRows, type⟩ := mem_slice.mp inSlice
  obtain ⟨member'', left'⟩ := mem_rowsOf.mp inRows
  obtain rfl : found = other := eq_of_same_item distinct member'' member'
    (left'.trans left.symm) (same'.trans same)
  have types : found.questionType = row.questionType :=
    Option.some_inj.mp (type.resolve_left (Option.some_ne_none _))
  exact ⟨types.symm, (compared.sameClusters found inSlice row typed same').symm⟩

end Aggregable

/-! ## The cohort of a store that is aggregated -/

/-- Under the checks, staying in the cohort is matching it. -/
theorem StaysInCohort.matches
    (stays : StaysInCohort platform envelope cohort repository)
    (membership : IsMembership platform envelope.preregistration cohort)
    (results : AreResults platform (manifestOf envelope) repository rows)
    (aggregable : IsAggregable envelope.preregistration rows) :
    MatchesCohort platform envelope cohort repository := by
  have registered : ∀ row ∈ rows,
      row.configHash ∈ envelope.preregistration.configHashes :=
    fun row member => ((results.mem_iff row).mp member).registered
  constructor
  · intro configHash listed itemId
    have inside : itemSet (rowsOf rows configHash) ⊆ cohort.toFinset := by
      intro itemId member
      obtain ⟨row, found, rfl⟩ := List.mem_map.mp (List.mem_toFinset.mp member)
      exact List.mem_toFinset.mpr (stays.inside row
        ((results.mem_iff row).mp (mem_rowsOf.mp found).1))
    -- There are as many results as items, so every item has a result.
    have cards : cohort.toFinset.card ≤
        (itemSet (rowsOf rows configHash)).card := by
      rw [itemSet, List.toFinset_card_of_nodup
          (rowsOf_distinct results.distinct configHash), List.length_map,
        List.toFinset_card_of_nodup membership.unique, membership.itemCount,
        aggregable.complete configHash listed]
    rw [← List.mem_toFinset, ← Finset.eq_of_subset_of_card_le inside cards,
      itemSet, List.mem_toFinset, List.mem_map]
    refine exists_congr fun row => ?_
    rw [mem_rowsOf, results.mem_iff, and_assoc]
  · -- Both results are compared with the one on the left side.
    have toLeft : ∀ row ∈ rows, ∃ other ∈ rows, other.configHash =
        envelope.preregistration.primaryComparison.leftConfigHash ∧
          other.itemId = row.itemId ∧
          row.questionType = other.questionType ∧
          row.documentClusterId = other.documentClusterId := by
      intro row member
      obtain ⟨other, member', left, same⟩ := aggregable.exists_row registered
        member envelope.preregistration.frozen.1
      refine ⟨other, member', left, same, ?_⟩
      by_cases here : row.configHash =
          envelope.preregistration.primaryComparison.leftConfigHash
      · obtain rfl := eq_of_same_item results.distinct member member'
          (here.trans left.symm) same.symm
        exact ⟨rfl, rfl⟩
      by_cases there : row.configHash =
          envelope.preregistration.primaryComparison.rightConfigHash
      · exact aggregable.compared_strata results.distinct member there member'
          left same.symm
      · exact stays.third row other ((results.mem_iff row).mp member)
          ((results.mem_iff other).mp member') here there left same.symm
    intro first second stored stored' same
    obtain ⟨left, member, config, item, type, cluster⟩ :=
      toLeft first ((results.mem_iff first).mpr stored)
    obtain ⟨left', member', config', item', type', cluster'⟩ :=
      toLeft second ((results.mem_iff second).mpr stored')
    obtain rfl : left = left' := eq_of_same_item results.distinct member
      member' (config.trans config'.symm)
      (item.trans (same.trans item'.symm))
    exact ⟨type.trans type'.symm, cluster.trans cluster'.symm⟩

theorem MatchesCohort.stays
    (matching : MatchesCohort platform envelope cohort repository) :
    StaysInCohort platform envelope cohort repository where
  inside row stored := (matching.exact row.configHash stored.registered
    row.itemId).mpr ⟨row, stored, rfl, rfl⟩
  third row other stored stored' _ _ _ :=
    matching.sameStrata row other stored stored'

/-- Only a store of the preregistered cohort is aggregated, exactly when the
results stay in it where the checks pass. -/
theorem aggregation_fails_closed_iff
    (hashes : platform.HashesCanonically floats)
    (hex : ∀ bytes, isHexDigest (platform.sha256Hex bytes) = true)
    (apart : platform.TellsApart
      {text | text ∈ envelope.preregistration.configHashes})
    (holds : Holds platform (manifestOf envelope) (fun _ => True) repository)
    (membership : IsMembership platform envelope.preregistration cohort) :
    ((∃ report, aggregateGoldResults arithmetic random platform repository
        envelope salt = .ok report) →
      MatchesCohort platform envelope cohort repository) ↔
    (PassesChecks platform envelope repository salt →
      StaysInCohort platform envelope cohort repository) := by
  obtain ⟨rows, results⟩ :=
    holds.allResults hashes apart envelope.preregistration.unique
  rw [aggregateGoldResults_ok_iff holds hashes hex results]
  constructor
  · intro closed checks
    exact (closed ⟨checks.salted, checks.verified, checks.uninvalidated,
      checks.aggregable rows results.listed⟩).stays
  · rintro stays ⟨salted, verified, uninvalidated, aggregable⟩
    refine (stays ⟨salted, verified, uninvalidated, ?_⟩).matches membership
      results aggregable
    intro rows' listed
    rwa [← Except.ok.inj (results.listed.symm.trans listed)]

/-! ## A store of the cohort and a foreign one -/

theorem complete_stays {items : List GoldItem}
    (complete : IsComplete platform envelope items repository)
    (ids : ∀ item ∈ items, item.itemId ∈ cohort)
    (hashes : platform.HashesCanonically floats) :
    StaysInCohort platform envelope cohort repository := by
  obtain ⟨rows, results⟩ := complete.holds.allResults hashes complete.apart
    envelope.preregistration.unique
  have echoing := complete.echoing results
  constructor
  · intro row stored
    obtain ⟨item, inItems, echo⟩ :=
      echoing.echoes row ((results.mem_iff row).mpr stored)
    exact echo.itemId_eq ▸ ids item inItems
  · intro row other stored stored' _ _ _
    exact echoing.strata_eq complete.cohort ((results.mem_iff row).mpr stored)
      ((results.mem_iff other).mpr stored')

theorem preregistered_store_aggregated :
    ∃ store report,
      saveAll goldPlatform (bound emptyStore (clusteredEnvelope fun _ => false))
        (clusteredResults fun _ => false) = .ok store ∧
      aggregateGoldResults sampleArithmetic sampleRandom goldPlatform store
        (clusteredEnvelope fun _ => false) "salt" = .ok report ∧
      MatchesCohort goldPlatform (clusteredEnvelope fun _ => false)
        goldItemIds store := by
  obtain ⟨store, filled, complete, uninvalidated⟩ :=
    clusteredStore fun _ => false
  have hashes := markedPlatform_hashes goldMarks
  have hex : ∀ bytes, isHexDigest (goldPlatform.sha256Hex bytes) = true :=
    fun _ => digestOf_isHexDigest _
  obtain ⟨report, success⟩ : ∃ report, aggregateGoldResults sampleArithmetic
      sampleRandom goldPlatform store (clusteredEnvelope fun _ => false)
        "salt" = .ok report :=
    (complete.aggregates_iff hashes hex).mpr ⟨by decide,
      sampleEnvelope_verified _ _, uninvalidated, common_type_clusters⟩
  have ids := clusteredItems_ids fun _ => false
  have membership : IsMembership goldPlatform
      (clusteredEnvelope fun _ => false).preregistration goldItemIds :=
    { membership := by
        rw [← ids]
        exact markedPlatform_hash goldMarks (Json.compliant_texts _)
      itemCount := by
        rw [← ids, List.length_map]
        exact complete.cohort.itemCount
      unique := ids ▸ complete.cohort.unique }
  have stays : StaysInCohort goldPlatform (clusteredEnvelope fun _ => false)
      goldItemIds store :=
    complete_stays complete
      (fun item member => ids ▸ List.mem_map_of_mem member) hashes
  exact ⟨store, report, filled, success, (aggregation_fails_closed_iff hashes
    hex complete.apart (complete.holds.imp fun _ _ => trivial)
    membership).mpr (fun _ => stays) ⟨report, success⟩⟩

def foreignItem (number : ℕ) : GoldItem :=
  { toGoldFields :=
      { (sampleItem number).toGoldFields with
        itemId := String.ofList (List.replicate (number + 1) 'h') }
    named := by
      simp [GoldFields.isNamed, sampleItem, List.replicate_succ]
    consistent := sampleItem_consistent number }

def foreignItems : List GoldItem :=
  (List.range 150).map foreignItem

def foreignIds : List String :=
  foreignItems.map fun item => item.itemId

/-- The marks of the runs, and the memberships of both cohorts. -/
def foreignMarks : List Bytes :=
  goldMarks ++ [canonicalBytes (.array (goldItemIds.map .str)),
    canonicalBytes (.array (foreignIds.map .str))]

theorem first_not_foreign : String.ofList ['g'] ∉ foreignIds := by
  intro member
  obtain ⟨item, listed, same⟩ := List.mem_map.mp member
  obtain ⟨number, -, rfl⟩ := List.mem_map.mp listed
  have letters := String.ofList_inj.mp same
  rw [List.replicate_succ] at letters
  exact absurd (List.cons.inj letters).1 (by decide)

/-- The results of one cohort are aggregated under the preregistration of
another one. -/
theorem foreign_cohort_aggregated :
    ∃ store report,
      saveAll (markedPlatform foreignMarks)
        (bound emptyStore (sampleEnvelope foreignMarks foreignItems))
        (clusteredResults fun _ => false) = .ok store ∧
      IsMembership (markedPlatform foreignMarks)
        (sampleEnvelope foreignMarks foreignItems).preregistration
        foreignIds ∧
      (markedPlatform foreignMarks).canonicalJsonHash
          (.array (goldItemIds.map .str)) ≠
        (markedPlatform foreignMarks).canonicalJsonHash
          (.array (foreignIds.map .str)) ∧
      aggregateGoldResults sampleArithmetic sampleRandom
        (markedPlatform foreignMarks) store
        (sampleEnvelope foreignMarks foreignItems) "salt" = .ok report ∧
      ¬ MatchesCohort (markedPlatform foreignMarks)
        (sampleEnvelope foreignMarks foreignItems) foreignIds store := by
  have short : foreignMarks.length < 2 ^ 64 := by
    simp [foreignMarks, goldMarks, goldItemIds, sampleItems]
  have apart : (markedPlatform foreignMarks).TellsApart
      {text | text ∈ (List.range 3).map digestOf ++ goldItemIds} :=
    markedPlatform_tellsApart short fun text member =>
      List.mem_append_left _ (List.mem_append_right _
        (List.mem_map_of_mem member))
  obtain ⟨store, filled, complete, uninvalidated⟩ := saved_isComplete apart
    (fun number small => List.mem_append_left _
      (List.mem_map_of_mem (List.mem_range.mpr small)))
    (fun _ member => List.mem_append_right _ member) foreignItems
    fun _ => false
  obtain ⟨report, success⟩ : ∃ report, aggregateGoldResults sampleArithmetic
      sampleRandom (markedPlatform foreignMarks) store
      (sampleEnvelope foreignMarks foreignItems) "salt" = .ok report :=
    (complete.aggregates_iff (markedPlatform_hashes foreignMarks)
      fun _ => digestOf_isHexDigest _).mpr ⟨by decide,
        sampleEnvelope_verified _ _, uninvalidated, common_type_clusters⟩
  refine ⟨store, report, filled, ⟨?_, ?_, ?_⟩, ?_, success, ?_⟩
  · exact markedPlatform_hash foreignMarks (Json.compliant_texts _)
  · simp [foreignIds, foreignItems, sampleEnvelope, samplePreregistration]
  · rw [foreignIds, foreignItems, List.map_map]
    refine List.nodup_range.map fun left right same => ?_
    have lengths := congrArg (fun text => text.toList.length) same
    simpa [foreignItem] using lengths
  · intro same
    rw [markedPlatform_hash foreignMarks (Json.compliant_texts _),
      markedPlatform_hash foreignMarks (Json.compliant_texts _)] at same
    have marked : canonicalBytes (.array (goldItemIds.map .str)) ∈
        foreignMarks := List.mem_append_right _ List.mem_cons_self
    have bytes := markedSha256_inj short marked (Except.ok.inj same)
    have ids := texts_of_same (same_of_canonicalBytes_eq
      (Json.compliant_texts _) (Json.compliant_texts _) bytes)
    refine first_not_foreign (ids ▸ ?_)
    exact List.mem_map_of_mem (List.mem_map_of_mem
      (List.mem_range.mpr (by decide : 0 < 150)))
  · intro matching
    obtain ⟨row, echo, stored⟩ := complete.complete _
      (sampleEnvelope foreignMarks foreignItems).preregistration.frozen.1 _
      (mem_clusteredItems (by decide : 0 < 150))
    have inside := matching.stays.inside row stored
    rw [echo.itemId_eq] at inside
    exact first_not_foreign inside

end RagBench
