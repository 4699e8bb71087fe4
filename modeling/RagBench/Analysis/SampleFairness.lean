import Mathlib.Data.List.Forall2
import RagBench.Analysis.CostBalance
import RagBench.Analysis.FailureSample

/-!
# When a failure sample is fair

Nothing keeps a bundle from listing a failure of one question in one
experiment again.  The sample shows the question twice when it reaches the
second failure, and depends on the order of the failures when it reaches the
first of several different ones.
-/

namespace RagBench

/-- How many failures are of a stratum. -/
def countOf (failures : List AnalysisFailure) (stratum : String ×ₗ String) :
    ℕ :=
  failures.countP fun failure => failure.stratum = stratum

/-- The same bundle, up to the order of its failures. -/
structure Reorders (other bundle : AnalysisBundle) : Prop where
  configs : other.configs = bundle.configs
  results : other.results = bundle.results
  usage : other.usage = bundle.usage
  failures : other.failures.Perm bundle.failures

/-- What a sample of this size owes to the failures. -/
structure IsFairSample (platform : Platform) (salt : String)
    (bundle : AnalysisBundle) (sampleSize : ℤ) : Prop where
  identified : ∃ items,
    planFailureSample platform salt bundle sampleSize = .ok items ∧
      (items.length : ℤ) = sampleSize ∧
      (items.map FailureSampleItem.publicFailureId).Nodup
  fair : ∃ selected,
    selectFailures platform salt bundle sampleSize = .ok selected ∧
      selected.Subperm bundle.failures ∧
      ∀ first ∈ bundle.failures, ∀ second ∈ bundle.failures,
        countOf selected first.stratum ≤ countOf selected second.stratum + 1 ∨
          countOf selected second.stratum =
            countOf bundle.failures second.stratum
  orderFree : ∀ other, Reorders other bundle →
    planFailureSample platform salt other sampleSize =
      planFailureSample platform salt bundle sampleSize

/-- Of a question with several failures in one experiment, the turn of the
second one does not come, and that of the first one only where the failures
are the same. -/
def RepeatsUnreached (platform : Platform) (salt : String)
    (failures : List AnalysisFailure) (limit : ℕ) : Prop :=
  ∀ failure ∈ failures,
    (1 < failures.countP fun other => SameQuestion other failure) →
      limit ≤ failureTurn failures failure.stratum
          (placeOf platform salt failures failure + 1) ∧
        (failureTurn failures failure.stratum
            (placeOf platform salt failures failure) < limit →
          ∀ other ∈ failures, SameQuestion other failure → other = failure)

section Fair

variable {platform : Platform} {floats : FloatText} {salt : String}
  {failures : List AnalysisFailure} {limit : ℕ}

/-! ## The order of the failures -/

theorem placeOf_perm {failures' : List AnalysisFailure}
    (permuted : failures.Perm failures') (failure : AnalysisFailure) :
    placeOf platform salt failures failure =
      placeOf platform salt failures' failure :=
  permuted.countP_eq _

theorem failureTurn_perm {failures' : List AnalysisFailure}
    (permuted : failures.Perm failures') (stratum : String ×ₗ String)
    (place : ℕ) :
    failureTurn failures stratum place =
      failureTurn failures' stratum place := by
  rw [failureTurn, failureTurn, orderedStrata_perm permuted]
  simp only [permuted.countP_eq]

theorem RepeatsUnreached.perm
    (unreached : RepeatsUnreached platform salt failures limit)
    {failures' : List AnalysisFailure} (permuted : failures.Perm failures') :
    RepeatsUnreached platform salt failures' limit := by
  intro failure member repeated
  rw [← permuted.countP_eq] at repeated
  obtain ⟨late, alike⟩ :=
    unreached failure (permuted.mem_iff.mpr member) repeated
  rw [← placeOf_perm permuted, ← failureTurn_perm permuted,
    ← failureTurn_perm permuted]
  exact ⟨late, fun early other listed =>
    alike early other (permuted.mem_iff.mpr listed)⟩

/-- The ids of the selected failures do not depend on the order. -/
theorem map_selectedFailures_perm {failures' : List AnalysisFailure}
    (permuted : failures.Perm failures') :
    (selectedFailures platform salt failures limit).map
        (failureId platform salt) =
      (selectedFailures platform salt failures' limit).map
        (failureId platform salt) := by
  rw [selectedFailures, selectedFailures, List.map_take, List.map_take,
    RoundRobin.map_rounds, RoundRobin.map_rounds, orderedStrata_perm permuted]
  have queues (stratum : String ×ₗ String) :
      (stratumQueue platform salt failures stratum).map
          (failureId platform salt) =
        (stratumQueue platform salt failures' stratum).map
          (failureId platform salt) :=
    map_sortBy_eq_of_perm (permuted.filter _)
  simp only [queues]

/-! ## One failure of each question -/

private theorem place_lt (of : Identified platform salt failures)
    {failure : AnalysisFailure} (member : failure ∈ failures) :
    placeOf platform salt failures failure <
      failures.countP fun other => other.stratum = failure.stratum := by
  have places := placeOf_add_le of member
  have some : 0 < failures.countP fun other => SameQuestion other failure :=
    List.countP_pos_iff.mpr ⟨failure, member, decide_eq_true ⟨rfl, rfl⟩⟩
  omega

/-- A question is shown by its only failure, if its turn comes. -/
theorem filter_of_unreached (of : Identified platform salt failures)
    (unreached : RepeatsUnreached platform salt failures limit)
    {failure : AnalysisFailure} (member : failure ∈ failures) :
    (selectedFailures platform salt failures limit).filter
        (fun other => SameQuestion other failure) =
      if failureTurn failures failure.stratum
        (placeOf platform salt failures failure) < limit
      then [failure] else [] := by
  obtain ⟨drawn, turns, same⟩ := filter_selectedFailures of member limit
  have reached := turns _ (place_lt of member)
  have inside : failure ∈ failures.filter fun other =>
      SameQuestion other failure :=
    List.mem_filter.mpr ⟨member, decide_eq_true ⟨rfl, rfl⟩⟩
  rw [same]
  split_ifs with early
  · have positive := reached.mpr early
    by_cases repeated :
        1 < failures.countP fun other => SameQuestion other failure
    · obtain ⟨late, alike⟩ := unreached failure member repeated
      have places := placeOf_add_le of member
      have second := (turns (placeOf platform salt failures failure + 1)
        (by omega)).not.mpr (not_lt.mpr late)
      have one : drawn - placeOf platform salt failures failure = 1 := by omega
      rw [one]
      cases group : failures.filter fun other =>
          SameQuestion other failure with
      | nil =>
          rw [group] at inside
          cases inside
      | cons first rest =>
          have listed : first ∈ failures.filter fun other =>
              SameQuestion other failure := group ▸ List.mem_cons_self
          obtain ⟨known, equal⟩ := List.mem_filter.mp listed
          rw [alike early first known (of_decide_eq_true equal)]
          rfl
    · have single : (failures.filter fun other =>
          SameQuestion other failure).length ≤ 1 := by
        rw [← List.countP_eq_length_filter]
        omega
      rw [List.take_of_length_le (single.trans (by omega))]
      cases group : failures.filter fun other =>
          SameQuestion other failure with
      | nil =>
          rw [group] at inside
          cases inside
      | cons first rest =>
          rw [group] at inside single
          obtain rfl : rest = [] := List.length_eq_zero_iff.mp
            (Nat.le_zero.mp (Nat.succ_le_succ_iff.mp single))
          rw [List.mem_singleton.mp inside]
  · have none := reached.not.mpr early
    rw [Nat.sub_eq_zero_of_le (not_lt.mp none), List.take_zero]

/-- No question is shown twice. -/
theorem nodup_of_unreached (of : Identified platform salt failures)
    (unreached : RepeatsUnreached platform salt failures limit) :
    ((selectedFailures platform salt failures limit).map
      (failureId platform salt)).Nodup := by
  rw [List.nodup_iff_count_le_one]
  intro id
  by_cases shown : id ∈ (selectedFailures platform salt failures limit).map
      (failureId platform salt)
  · obtain ⟨failure, member, rfl⟩ := List.mem_map.mp shown
    have known := mem_of_mem_selectedFailures member
    have once : ((selectedFailures platform salt failures limit).countP
        fun other => SameQuestion other failure) ≤ 1 := by
      rw [List.countP_eq_length_filter,
        filter_of_unreached of unreached known]
      split_ifs <;> simp
    refine le_trans (le_of_eq ?_) once
    rw [List.count, List.countP_map]
    refine List.countP_congr fun other listed => ?_
    simp only [Function.comp_apply, beq_iff_eq, decide_eq_true_eq]
    exact ⟨of.apart other (mem_of_mem_selectedFailures listed) failure known,
      failureId_congr⟩
  · rw [List.count_eq_zero_of_not_mem shown]
    exact Nat.zero_le _

private theorem eq_of_map_eq {α β : Type} {read : α → β} {left right : List α}
    (same : left.map read = right.map read)
    (equal : ∀ first ∈ left, ∀ second ∈ right, read first = read second →
      first = second) : left = right := by
  induction left generalizing right with
  | nil => exact (List.map_eq_nil_iff.mp same.symm).symm
  | cons first left induction =>
      cases right with
      | nil => cases same
      | cons second right =>
          obtain ⟨head, tail⟩ := List.cons.inj same
          have here := equal first List.mem_cons_self second
            List.mem_cons_self head
          have there := induction tail fun first member second member' =>
            equal first (List.mem_cons_of_mem _ member) second
              (List.mem_cons_of_mem _ member')
          rw [here, there]

/-- The selected failures do not depend on the order. -/
theorem selectedFailures_perm (of : Identified platform salt failures)
    (unreached : RepeatsUnreached platform salt failures limit)
    {failures' : List AnalysisFailure} (permuted : failures.Perm failures') :
    selectedFailures platform salt failures limit =
      selectedFailures platform salt failures' limit := by
  refine eq_of_map_eq (map_selectedFailures_perm permuted) ?_
  intro first member second member' same
  have known := mem_of_mem_selectedFailures member
  have known' := permuted.mem_iff.mpr (mem_of_mem_selectedFailures member')
  have question := of.apart second known' first known same.symm
  have shown : second ∈ (selectedFailures platform salt failures' limit).filter
      fun other => SameQuestion other first :=
    List.mem_filter.mpr ⟨member', decide_eq_true question⟩
  rw [filter_of_unreached (of.perm permuted) (unreached.perm permuted)
    (permuted.mem_iff.mp known)] at shown
  split_ifs at shown
  · exact (List.mem_singleton.mp shown).symm
  · cases shown

/-! ## What a fair sample needs -/

/-- A second failure that is reached shows its question again. -/
theorem late_of_nodup (of : Identified platform salt failures)
    (distinct : ((selectedFailures platform salt failures limit).map
      (failureId platform salt)).Nodup)
    {failure : AnalysisFailure} (member : failure ∈ failures)
    (repeated :
      1 < failures.countP fun other => SameQuestion other failure) :
    limit ≤ failureTurn failures failure.stratum
      (placeOf platform salt failures failure + 1) := by
  obtain ⟨drawn, turns, same⟩ := filter_selectedFailures of member limit
  have places := placeOf_add_le of member
  by_contra early
  have reached := (turns (placeOf platform salt failures failure + 1)
    (by omega)).mpr (not_le.mp early)
  have several : 2 ≤ ((selectedFailures platform salt failures limit).filter
      fun other => SameQuestion other failure).length := by
    rw [same, List.length_take, ← List.countP_eq_length_filter]
    omega
  have apart := ((List.filter_sublist (p := fun other =>
    decide (SameQuestion other failure))).map
      (failureId platform salt)).nodup distinct
  cases shown : (selectedFailures platform salt failures limit).filter
      fun other => SameQuestion other failure with
  | nil => simp [shown] at several
  | cons first rest =>
      cases rest with
      | nil => simp [shown] at several
      | cons second rest =>
          rw [shown, List.map_cons, List.map_cons, List.nodup_cons] at apart
          have equal : ∀ other ∈ first :: second :: rest,
              failureId platform salt other =
                failureId platform salt failure := by
            intro other listed
            rw [← shown] at listed
            exact failureId_congr
              (of_decide_eq_true (List.mem_filter.mp listed).2)
          refine apart.1 (List.mem_cons.mpr (.inl ?_))
          rw [equal first List.mem_cons_self,
            equal second (List.mem_cons_of_mem _ List.mem_cons_self)]

/-- A question whose turn comes is shown by its first failure. -/
theorem head_of_turn (of : Identified platform salt failures)
    {failure : AnalysisFailure} (member : failure ∈ failures)
    (early : failureTurn failures failure.stratum
      (placeOf platform salt failures failure) < limit)
    {first : AnalysisFailure} {rest : List AnalysisFailure}
    (group : (failures.filter fun other => SameQuestion other failure) =
      first :: rest) :
    ((selectedFailures platform salt failures limit).filter
      fun other => SameQuestion other failure).head? = some first := by
  obtain ⟨drawn, turns, same⟩ := filter_selectedFailures of member limit
  have reached := (turns _ (place_lt of member)).mpr early
  obtain ⟨more, size⟩ := Nat.exists_eq_add_of_lt reached
  have some : drawn - placeOf platform salt failures failure = more + 1 := by
    omega
  rw [same, group, some]
  rfl

/-- No failure is taken more often than it is listed. -/
theorem selectedFailures_subperm (failures : List AnalysisFailure)
    (limit : ℕ) :
    (selectedFailures platform salt failures limit).Subperm failures := by
  rw [List.subperm_ext_iff]
  intro row member
  have known := mem_of_mem_selectedFailures member
  obtain ⟨drawn, same, -⟩ := RoundRobin.filter_take_rounds_of_le
    (orderedStrata_pairwise failures)
    (mem_orderedStrata.mpr ⟨row, known, rfl⟩) (le_refl limit)
    (@stratum_of_mem_queue platform salt failures)
  calc (selectedFailures platform salt failures limit).count row
      = ((selectedFailures platform salt failures limit).filter
          fun other => other.stratum = row.stratum).count row :=
        (List.count_filter (by simp)).symm
    _ = ((stratumQueue platform salt failures row.stratum).take drawn).count
          row := by rw [selectedFailures, same]
    _ ≤ (stratumQueue platform salt failures row.stratum).count row :=
        (List.take_sublist _ _).count_le _
    _ = (failures.filter fun other => other.stratum = row.stratum).count
          row := (sortBy_perm _ _).count_eq _
    _ = failures.count row := List.count_filter (by simp)

/-- No stratum is more than one failure ahead of one that has some left. -/
theorem countOf_selectedFailures (limit : ℕ) {first second : AnalysisFailure}
    (member : first ∈ failures) (member' : second ∈ failures) :
    countOf (selectedFailures platform salt failures limit) first.stratum ≤
        countOf (selectedFailures platform salt failures limit)
          second.stratum + 1 ∨
      countOf (selectedFailures platform salt failures limit)
          second.stratum = countOf failures second.stratum := by
  have ahead := RoundRobin.taken_le_succ (orderedStrata_pairwise failures)
    (mem_orderedStrata.mpr ⟨first, member, rfl⟩)
    (mem_orderedStrata.mpr ⟨second, member', rfl⟩) (le_refl limit)
    (@stratum_of_mem_queue platform salt failures)
  rw [length_stratumQueue] at ahead
  simpa only [countOf, List.countP_eq_length_filter, selectedFailures]
    using ahead

end Fair

/-! ## The items -/

section Items

variable {platform : Platform} {floats : FloatText} {salt : String}
  {bundle : AnalysisBundle}

theorem configHashOf_ok {failure : AnalysisFailure}
    (member : failure ∈ bundle.failures) :
    ∃ configHash, configHashOf bundle failure.experimentId =
      .ok configHash := by
  obtain ⟨result, listed, experiment, -, -⟩ :=
    bundle.failures_bound failure member
  have known := bundle.results_known result listed
  rw [experiment] at known
  obtain ⟨config, inside, same⟩ := List.mem_map.mp known
  have unique : ((bundle.configs.map fun config =>
      (config.experimentId, config)).map Prod.fst).Nodup := by
    rw [List.map_map]
    exact bundle.experiments_unique
  have found : (configsByExperiment bundle).get? failure.experimentId =
      some config := by
    rw [Dict.get?_eq_some_iff, configsByExperiment, Dict.entries_ofList unique]
    exact List.mem_map.mpr ⟨config, inside, by rw [same]⟩
  exact ⟨config.configHash, by rw [configHashOf, found]⟩

/-- A failure of the bundle has its item. -/
theorem sampleItemOf_ok (hashes : platform.HashesCanonically floats)
    (hex : ∀ bytes, isHexDigest (platform.sha256Hex bytes) = true)
    {failure : AnalysisFailure} (member : failure ∈ bundle.failures) :
    ∃ item, sampleItemOf platform salt bundle failure = .ok item ∧
      item.publicFailureId = failureId platform salt failure ∧
      item.questionType = failure.questionType ∧
      item.primary = failure.primary ∧
      item.secondary = failure.secondary := by
  obtain ⟨hashed, isDigest⟩ := @failureHash_ok platform floats salt hashes hex failure
  obtain ⟨configHash, found⟩ := configHashOf_ok member
  obtain ⟨publicId, hashed', isDigest'⟩ := hashed_object hashes hex
    [("public_salt", salt), ("config_hash", configHash)]
  have named : publicConfigId platform salt configHash = .ok publicId :=
    hashed'
  rw [sampleItemOf, hashed, found]
  change ∃ item, (publicConfigId platform salt configHash >>= _) = _ ∧ _
  rw [named]
  exact ⟨_, if_pos ⟨isDigest, isDigest'⟩, rfl, rfl, rfl, rfl⟩

theorem publicFailureId_eq {failure : AnalysisFailure}
    {item : FailureSampleItem}
    (shown : sampleItemOf platform salt bundle failure = .ok item) :
    item.publicFailureId = failureId platform salt failure := by
  obtain ⟨id, hashed, shown⟩ := bind_eq_ok.mp shown
  obtain ⟨configHash, -, shown⟩ := bind_eq_ok.mp shown
  obtain ⟨publicId, -, shown⟩ := bind_eq_ok.mp shown
  rw [FailureSampleItem.validate] at shown
  split_ifs at shown
  cases shown
  rw [failureId, hashed]
  rfl

theorem map_publicFailureId {selected : List AnalysisFailure}
    {items : List FailureSampleItem}
    (built : selected.mapM (sampleItemOf platform salt bundle) = .ok items) :
    items.map FailureSampleItem.publicFailureId =
      selected.map (failureId platform salt) :=
  map_eq_of_forall₂ (failureId platform salt)
    FailureSampleItem.publicFailureId (fun _ _ => publicFailureId_eq)
    (mapM_eq_ok.mp built)

/-- Different failures of the bundle have different items. -/
theorem sampleItemOf_inj (hashes : platform.HashesCanonically floats)
    (hex : ∀ bytes, isHexDigest (platform.sha256Hex bytes) = true)
    (of : Identified platform salt bundle.failures)
    {first second : AnalysisFailure} (member : first ∈ bundle.failures)
    (member' : second ∈ bundle.failures) {item : FailureSampleItem}
    (shown : sampleItemOf platform salt bundle first = .ok item)
    (shown' : sampleItemOf platform salt bundle second = .ok item) :
    first = second := by
  obtain ⟨item', built, id, type, primary, secondary⟩ :=
    @sampleItemOf_ok platform floats salt bundle hashes hex first member
  rw [shown] at built
  cases built
  obtain ⟨item', built, id', type', primary', secondary'⟩ :=
    @sampleItemOf_ok platform floats salt bundle hashes hex second member'
  rw [shown'] at built
  cases built
  obtain ⟨experiment, question⟩ := of.apart first member second member'
    (id.symm.trans id')
  have types := type.symm.trans type'
  have primaries := primary.symm.trans primary'
  have secondaries := secondary.symm.trans secondary'
  cases first
  cases second
  simp_all

private theorem eq_of_mapM {α β : Type} {step : α → Except PyException β}
    {left right : List α} {results : List β}
    (built : left.mapM step = .ok results)
    (built' : right.mapM step = .ok results)
    (apart : ∀ first ∈ left, ∀ second ∈ right, ∀ result,
      step first = .ok result → step second = .ok result → first = second) :
    left = right := by
  have related := mapM_eq_ok.mp built
  have related' := mapM_eq_ok.mp built'
  clear built built'
  induction related generalizing right with
  | nil =>
      cases related'
      rfl
  | cons here _ induction =>
      cases related' with
      | cons here' there' =>
          rw [apart _ List.mem_cons_self _ List.mem_cons_self _ here here',
            induction (fun first member second member' =>
              apart first (List.mem_cons_of_mem _ member) second
                (List.mem_cons_of_mem _ member')) there']

theorem exists_selectedItems (hashes : platform.HashesCanonically floats)
    (hex : ∀ bytes, isHexDigest (platform.sha256Hex bytes) = true)
    (limit : ℕ) :
    ∃ items, (selectedFailures platform salt bundle.failures limit).mapM
      (sampleItemOf platform salt bundle) = .ok items :=
  exists_mapM_iff.mpr fun failure member =>
    (@sampleItemOf_ok platform floats salt bundle hashes hex failure
      (mem_of_mem_selectedFailures member)).imp fun _ => And.left

/-- The plan shows the selected failures. -/
theorem planFailureSample_eq (hashes : platform.HashesCanonically floats)
    (hex : ∀ bytes, isHexDigest (platform.sha256Hex bytes) = true)
    {sampleSize : ℤ} (range : 50 ≤ sampleSize ∧ sampleSize ≤ 100)
    (enough : sampleSize ≤ bundle.failures.length) {other : AnalysisBundle}
    (reorders : Reorders other bundle) :
    planFailureSample platform salt other sampleSize =
      (selectedFailures platform salt other.failures
        sampleSize.toNat).mapM (sampleItemOf platform salt bundle) := by
  have items : sampleItemOf platform salt other =
      sampleItemOf platform salt bundle := by
    funext failure
    rw [sampleItemOf, sampleItemOf, configHashOf, configHashOf,
      configsByExperiment, configsByExperiment, reorders.configs]
  rw [← reorders.failures.length_eq] at enough
  rw [planFailureSample, selectFailures_ok hashes hex range enough, items]
  rfl

/-- The bundle with its failures in another order. -/
def reordered (bundle : AnalysisBundle) {failures' : List AnalysisFailure}
    (permuted : failures'.Perm bundle.failures) : AnalysisBundle :=
  { bundle with
    failures := failures'
    failures_bound := fun failure member =>
      bundle.failures_bound failure (permuted.mem_iff.mp member) }

theorem reordered_reorders {failures' : List AnalysisFailure}
    (permuted : failures'.Perm bundle.failures) :
    Reorders (reordered bundle permuted) bundle :=
  ⟨rfl, rfl, rfl, permuted⟩

/-- A failure that is moved to the front is the one that is shown. -/
private theorem head_of_front (of : Identified platform salt bundle.failures)
    {limit : ℕ} {failure first : AnalysisFailure}
    (member : failure ∈ bundle.failures) (member' : first ∈ bundle.failures)
    (same : SameQuestion first failure)
    (early : failureTurn bundle.failures failure.stratum
      (placeOf platform salt bundle.failures failure) < limit) :
    ((selectedFailures platform salt (first :: bundle.failures.erase first)
        limit).filter fun other => SameQuestion other failure).head? =
      some first := by
  have permuted := List.perm_cons_erase member'
  refine head_of_turn (of.perm permuted) (permuted.mem_iff.mp member) ?_
    (List.filter_cons_of_pos (decide_eq_true same))
  rwa [← failureTurn_perm permuted, ← placeOf_perm permuted]

/-- In a sample without an order, the failures of a question that is shown are
the same. -/
theorem alike_of_orderFree (hashes : platform.HashesCanonically floats)
    (hex : ∀ bytes, isHexDigest (platform.sha256Hex bytes) = true)
    (of : Identified platform salt bundle.failures) {sampleSize : ℤ}
    (range : 50 ≤ sampleSize ∧ sampleSize ≤ 100)
    (enough : sampleSize ≤ bundle.failures.length)
    (fair : IsFairSample platform salt bundle sampleSize)
    {failure : AnalysisFailure} (member : failure ∈ bundle.failures)
    (early : failureTurn bundle.failures failure.stratum
      (placeOf platform salt bundle.failures failure) < sampleSize.toNat)
    {other : AnalysisFailure} (listed : other ∈ bundle.failures)
    (same : SameQuestion other failure) : other = failure := by
  obtain ⟨items, planned, -, -⟩ := fair.identified
  have unmoved : Reorders bundle bundle := ⟨rfl, rfl, rfl, .refl _⟩
  have front {first : AnalysisFailure} (member' : first ∈ bundle.failures) :
      selectedFailures platform salt (first :: bundle.failures.erase first)
          sampleSize.toNat =
        selectedFailures platform salt bundle.failures sampleSize.toNat := by
    have permuted := (List.perm_cons_erase member').symm
    have reorders := reordered_reorders permuted
    have moved := (fair.orderFree _ reorders).trans planned
    rw [planFailureSample_eq hashes hex range enough reorders] at moved
    have planned := planned
    rw [planFailureSample_eq hashes hex range enough unmoved] at planned
    refine eq_of_mapM moved planned ?_
    intro left inside right inside' item shown shown'
    exact sampleItemOf_inj hashes hex of
      (permuted.mem_iff.mp (mem_of_mem_selectedFailures inside))
      (mem_of_mem_selectedFailures inside') shown shown'
  have first := head_of_front of member listed same early
  have second := head_of_front of member member ⟨rfl, rfl⟩ early
  rw [front listed] at first
  rw [front member, first] at second
  exact Option.some_inj.mp second

/-- The sample is fair just in case it does not reach a failure that repeats a
question, or the first of several different ones. -/
theorem failure_sample_fair_iff (hashes : platform.HashesCanonically floats)
    (hex : ∀ bytes, isHexDigest (platform.sha256Hex bytes) = true)
    (separates : platform.Separates
      {payload | ∃ failure ∈ bundle.failures,
        payload = failurePayload salt failure})
    {sampleSize : ℤ} (range : 50 ≤ sampleSize ∧ sampleSize ≤ 100)
    (enough : sampleSize ≤ bundle.failures.length) :
    IsFairSample platform salt bundle sampleSize ↔
      RepeatsUnreached platform salt bundle.failures sampleSize.toNat := by
  have of := identified hashes hex separates
  have unmoved : Reorders bundle bundle := ⟨rfl, rfl, rfl, .refl _⟩
  have planned := @planFailureSample_eq platform floats salt bundle hashes hex
    sampleSize range enough bundle unmoved
  constructor
  · intro fair failure member repeated
    refine ⟨late_of_nodup of ?_ member repeated, fun early other listed same =>
      alike_of_orderFree hashes hex of range enough fair member early listed
        same⟩
    obtain ⟨items, built, -, distinct⟩ := fair.identified
    rw [planned] at built
    rwa [map_publicFailureId built] at distinct
  · intro unreached
    obtain ⟨items, built⟩ := @exists_selectedItems platform floats salt bundle
      hashes hex sampleSize.toNat
    refine ⟨⟨items, planned.trans built, ?_, ?_⟩,
      ⟨_, selectFailures_ok hashes hex range enough,
        selectedFailures_subperm _ _, fun first member second member' =>
          countOf_selectedFailures _ member member'⟩, fun other reorders => ?_⟩
    · have size := (mapM_eq_ok.mp built).length_eq
      rw [← size, length_selectedFailures (by omega)]
      omega
    · rw [map_publicFailureId built]
      exact nodup_of_unreached of unreached
    · rw [planned, planFailureSample_eq hashes hex range enough reorders,
        selectedFailures_perm of unreached reorders.failures.symm]

end Items

/-! ## Bundles of one experiment -/

def numberedQuestion (number : ℕ) : String :=
  String.ofList (List.replicate (number + 1) 'q')

theorem numberedQuestion_inj {left right : ℕ}
    (same : numberedQuestion left = numberedQuestion right) :
    left = right := by
  have lengths := congrArg List.length (String.ofList_inj.mp same)
  rw [List.length_replicate, List.length_replicate] at lengths
  exact Nat.succ.inj lengths

def numberedResult (number : ℕ) : AnalysisResult :=
  { experimentId := sampleConfig.experimentId
    questionId := numberedQuestion number
    questionType := "factoid"
    correctness := 0
    named := fun empty => by
      have letters := congrArg String.toList empty
      rw [numberedQuestion, String.toList_ofList] at letters
      cases letters
    correctness_unit := by norm_num }

def numberedFailure (number : ℕ) : AnalysisFailure :=
  { experimentId := sampleConfig.experimentId
    questionId := numberedQuestion number
    questionType := "factoid"
    primary := .parserError
    secondary := none
    labels_distinct := by decide }

/-- Fifty questions, and the failures of the given ones. -/
def failureBundle (numbers : List ℕ) (known : ∀ number ∈ numbers,
    number < 50) : AnalysisBundle :=
  { configs := [sampleConfig]
    results := (List.range 50).map numberedResult
    usage := []
    failures := numbers.map numberedFailure
    experiments_nonempty := sampleConfigs_nonempty
    experiments_unique := sampleConfigs_unique
    results_known := List.forall_mem_map.mpr fun _ _ => List.mem_cons_self
    usage_known := by simp
    results_unique := by
      rw [List.map_map]
      refine List.Nodup.map (fun left right same => ?_) List.nodup_range
      exact numberedQuestion_inj (Prod.mk.inj same).2
    cohort_shared := by
      intro first member second member' result listed _
      rw [List.mem_singleton.mp member']
      obtain ⟨number, -, rfl⟩ := List.mem_map.mp listed
      exact ⟨_, listed, rfl, rfl⟩
    types_fixed := by
      intro first member second member' _
      obtain ⟨number, -, rfl⟩ := List.mem_map.mp member
      obtain ⟨number', -, rfl⟩ := List.mem_map.mp member'
      rfl
    usage_bound := by simp
    failures_bound := by
      intro failure member
      obtain ⟨number, listed, rfl⟩ := List.mem_map.mp member
      exact ⟨numberedResult number, List.mem_map.mpr
        ⟨number, List.mem_range.mpr (known number listed), rfl⟩, rfl, rfl,
        rfl⟩ }

/-- One failure of each question. -/
def distinctFailures : AnalysisBundle :=
  failureBundle (List.range 50) fun _ => List.mem_range.mp

/-- The hashes of the failures are told apart. -/
def failureMarks : List Bytes :=
  (List.range 50).map fun number =>
    canonicalBytes (failurePayload "salt" (numberedFailure number))

theorem failure_sample_fair_distinct :
    IsFairSample (markedPlatform failureMarks) "salt" distinctFailures 50 := by
  refine (failure_sample_fair_iff (markedPlatform_hashes _)
    (fun _ => digestOf_isHexDigest _) (markedPlatform_separates ?_ ?_)
    (by decide) ?_).mpr ?_
  · simp [failureMarks]
  · rintro payload ⟨failure, member, rfl⟩
    obtain ⟨number, listed, rfl⟩ := List.mem_map.mp member
    exact ⟨rfl, List.mem_map.mpr ⟨number, listed, rfl⟩⟩
  · simp [distinctFailures, failureBundle]
  · intro failure member repeated
    obtain ⟨number, -, rfl⟩ := List.mem_map.mp member
    refine absurd repeated (not_lt.mpr ?_)
    have once : ((List.range 50).map numberedFailure).countP (fun other =>
        SameQuestion other (numberedFailure number)) ≤
          (List.range 50).count number := by
      rw [List.countP_map]
      refine List.countP_mono_left fun other _ same => ?_
      exact beq_iff_eq.mpr (numberedQuestion_inj (of_decide_eq_true same).2)
    exact once.trans (List.nodup_iff_count_le_one.mp List.nodup_range number)

/-- The failure of one question is listed fifty times. -/
def repeatedFailures : AnalysisBundle :=
  failureBundle (List.replicate 50 0) fun number member => by
    rw [List.eq_of_mem_replicate member]
    decide

/-- A bundle with repeated failures is accepted, and its sample shows one
failure again and again. -/
theorem repeated_failures_shown_again :
    ¬IsFairSample (markedPlatform []) "salt" repeatedFailures 50 := by
  intro fair
  obtain ⟨items, planned, size, distinct⟩ := fair.identified
  obtain ⟨selected, found, inside, -⟩ := fair.fair
  rw [planFailureSample, found] at planned
  have built : selected.mapM (sampleItemOf (markedPlatform []) "salt"
      repeatedFailures) = .ok items := planned
  have all : selected = List.replicate selected.length (numberedFailure 0) := by
    refine List.eq_replicate_of_mem fun failure member => ?_
    have listed := inside.subset member
    obtain ⟨number, replicated, rfl⟩ := List.mem_map.mp listed
    rw [List.eq_of_mem_replicate replicated]
  rw [map_publicFailureId built, all, List.map_replicate,
    List.nodup_replicate, (mapM_eq_ok.mp built).length_eq] at distinct
  omega

end RagBench
