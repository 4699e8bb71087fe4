import RagBench.Evaluation.CalibrationSample

/-!
# When calibration sampling is complete

A plan is refused for a missing kind only where no even sample has both kinds
under a condition on the pool, which is exact over all draws.  Strata that
share a label must not hide an uneven sample.
-/

namespace RagBench

open StratifiedDraw RoundRobin

/-- The pools and sizes that are sampled. -/
structure AcceptsCalibration (candidates : List CalibrationCandidate)
    (sampleSize : ℤ) : Prop where
  range : 100 ≤ sampleSize ∧ sampleSize ≤ 300
  fits : sampleSize ≤ candidates.length
  unique : (candidates.map CalibrationCandidate.responseId).Nodup
  kinds : lacksKind candidates = false
  covers : coversStrata candidates

section Plan

variable {ρ : Type} (random : RandomSource ρ)
  (candidates : List CalibrationCandidate) (sampleSize seed : ℤ)

/-- The rows of each stratum in the order of the sample, and the state of the
generator. -/
def arrangedStrata :
    (CalibrationStratum → List CalibrationCandidate) × ρ :=
  arrange (shuffleThen random hardFirst) (calibrationStrata candidates)
    (random.seeded seed) (rowsIn candidates)

/-- `selected`. -/
def selectedRows : List CalibrationCandidate :=
  (rounds (calibrationStrata candidates) sampleSize.toNat
    (arrangedStrata random candidates seed).1).take sampleSize.toNat

theorem arrangedStrata_isQueue :
    IsQueue candidates (arrangedStrata random candidates seed).1 := by
  have perm (stratum : CalibrationStratum) :
      ((arrangedStrata random candidates seed).1 stratum).Perm
        (rowsIn candidates stratum) :=
    arrange_perm (fun state rows => (sortBy_perm _ _).trans
      (random.shuffle_perm state rows)) _ _ _ stratum
  refine ⟨perm, fun stratum => ?_⟩
  by_cases listed : stratum ∈ calibrationStrata candidates
  · obtain ⟨before, rows, same⟩ := @exists_arranged ρ _ _ _
      (shuffleThen random hardFirst) _ _ listed (random.seeded seed)
      (rowsIn candidates)
    rw [arrangedStrata, same]
    exact sortBy_pairwise _ _
  · have none : (arrangedStrata random candidates seed).1 stratum = [] := by
      rw [List.eq_nil_iff_forall_not_mem]
      intro row member
      obtain ⟨pool, same⟩ := mem_rowsIn.mp ((perm stratum).mem_iff.mp member)
      exact listed (same ▸ stratum_mem_calibrationStrata pool)
    rw [none]
    exact List.Pairwise.nil

variable {random candidates sampleSize seed}

theorem planHumanCalibration_eq
    (accepts : AcceptsCalibration candidates sampleSize) :
    planHumanCalibration random candidates sampleSize seed =
      if lacksKind (selectedRows random candidates sampleSize seed) then
        .error mustRetain
      else calibrationPlan seed (random.shuffle
        (arrangedStrata random candidates seed).2
        (selectedRows random candidates sampleSize seed)).1 := by
  have of := arrangedStrata_isQueue random candidates seed
  have total : sampleSize.toNat ≤ ((calibrationStrata candidates).map
      fun stratum => ((arrangedStrata random candidates seed).1
        stratum).length).sum := by
    apply of.enough (.refl _)
    have fits := accepts.fits
    omega
  have drawn := drawAll_eq popFirst_pops (calibrationStrata_nodup candidates)
    total
  have rows : (fun key => (groupInto CalibrationCandidate.stratum .empty
      candidates).getD key []) = rowsIn candidates :=
    funext fun key => getD_groupInto CalibrationCandidate.stratum .empty
      candidates key
  rw [planHumanCalibration, raiseIf_bind (not_not.mpr accepts.range),
    raiseIf_bind (not_lt.mpr accepts.fits),
    raiseIf_bind (not_not.mpr accepts.unique),
    raiseIf_bind (by rw [accepts.kinds]; exact Bool.false_ne_true),
    raiseIf_bind (not_not.mpr accepts.covers)]
  dsimp only
  rw [rows, ← calibrationStrata, ← arrangedStrata, drawn]
  change (raiseIf (lacksKind (selectedRows random candidates sampleSize seed))
    mustRetain >>= fun _ => _) = _
  by_cases lacks : lacksKind (selectedRows random candidates sampleSize seed)
  · rw [raiseIf_bind_error lacks, if_pos lacks]
  · rw [raiseIf_bind lacks, if_neg lacks]
    rfl

/-- Other pools and sizes are refused for other reasons. -/
theorem planHumanCalibration_refused
    (refused : ¬ AcceptsCalibration candidates sampleSize) :
    ∃ error, planHumanCalibration random candidates sampleSize seed =
      .error error ∧ error ≠ mustRetain := by
  rw [planHumanCalibration]
  by_cases range : 100 ≤ sampleSize ∧ sampleSize ≤ 300
  · rw [raiseIf_bind (not_not.mpr range)]
    by_cases fits : sampleSize ≤ candidates.length
    · rw [raiseIf_bind (not_lt.mpr fits)]
      by_cases unique :
          (candidates.map CalibrationCandidate.responseId).Nodup
      · rw [raiseIf_bind (not_not.mpr unique)]
        by_cases kinds : lacksKind candidates
        · exact ⟨_, raiseIf_bind_error kinds, by decide⟩
        · rw [raiseIf_bind kinds]
          have covers : ¬ coversStrata candidates := fun covers =>
            refused ⟨range, fits, unique, by simpa using kinds, covers⟩
          exact ⟨_, raiseIf_bind_error covers, by decide⟩
      · exact ⟨_, raiseIf_bind_error unique, by decide⟩
    · exact ⟨_, raiseIf_bind_error (not_le.mp fits), by decide⟩
  · exact ⟨_, raiseIf_bind_error range, by decide⟩

end Plan

/-! ## Labels -/

/-- The largest value exceeds the smallest by at most one where any does. -/
theorem spread_le_one_iff (values : List ℕ) :
    values.foldr max 0 - values.foldr min (values.headD 0) ≤ 1 ↔
      ∀ first ∈ values, ∀ second ∈ values, first ≤ second + 1 := by
  have most (values : List ℕ) : (∀ value ∈ values, value ≤ values.foldr max 0) ∧
      (values = [] ∨ values.foldr max 0 ∈ values) := by
    induction values with
    | nil => exact ⟨nofun, .inl rfl⟩
    | cons value values induction =>
        obtain ⟨below, found⟩ := induction
        refine ⟨List.forall_mem_cons.mpr ⟨le_max_left _ _, fun other member =>
          (below other member).trans (le_max_right _ _)⟩, .inr ?_⟩
        rcases max_choice value (values.foldr max 0) with here | later
        · rw [List.foldr_cons, here]
          exact List.mem_cons_self
        · rcases found with rfl | found
          · exact List.mem_cons.mpr (.inl (max_eq_left (Nat.zero_le _)))
          · rw [List.foldr_cons, later]
            exact List.mem_cons_of_mem _ found
  have least (start : ℕ) (values : List ℕ) :
      (∀ value ∈ values, values.foldr min start ≤ value) ∧
        (values.foldr min start = start ∨
          values.foldr min start ∈ values) := by
    induction values with
    | nil => exact ⟨nofun, .inl rfl⟩
    | cons value values induction =>
        obtain ⟨above, found⟩ := induction
        refine ⟨List.forall_mem_cons.mpr ⟨min_le_left _ _, fun other member =>
          (min_le_right _ _).trans (above other member)⟩, ?_⟩
        rcases min_choice value (values.foldr min start) with here | later
        · rw [List.foldr_cons, here]
          exact .inr List.mem_cons_self
        · rw [List.foldr_cons, later]
          exact found.imp_right (List.mem_cons_of_mem _)
  cases values with
  | nil => simp
  | cons value values =>
      obtain ⟨below, found⟩ := most (value :: values)
      obtain ⟨above, found'⟩ := least value (value :: values)
      constructor
      · intro close first member second member'
        have low := above second member'
        have high := below first member
        rw [List.headD_cons] at close
        omega
      · intro close
        have low : (value :: values).foldr min value ∈ value :: values := by
          rcases found' with same | member
          · rw [same]
            exact List.mem_cons_self
          · exact member
        have high := found.resolve_left (List.cons_ne_nil _ _)
        have both := close _ high _ low
        rw [List.headD_cons]
        omega

theorem labelCounts_tallies (rows : List CalibrationCandidate) :
    Tallies (labelCounts rows) fun label =>
      (rows.map fun row => stratumLabel row.stratum).count label := by
  refine (Tallies.empty.countEach (fun row : CalibrationCandidate =>
    stratumLabel row.stratum) rows).congr fun label => ?_
  exact Nat.zero_add _

/-- The responses with a label. -/
def labelCount (rows : List CalibrationCandidate)
    (stratum : CalibrationStratum) : ℕ :=
  (rows.map fun row => stratumLabel row.stratum).count (stratumLabel stratum)

theorem mem_values_labelCounts {rows : List CalibrationCandidate}
    {value : ℕ} :
    value ∈ (labelCounts rows).values ↔
      ∃ row ∈ rows, labelCount rows row.stratum = value := by
  have tallies := labelCounts_tallies rows
  constructor
  · intro member
    obtain ⟨label, found⟩ := Dict.exists_get?_of_mem_values _ member
    rw [tallies label] at found
    split_ifs at found with absent
    have listed := List.count_pos_iff.mp (Nat.pos_of_ne_zero absent)
    obtain ⟨row, known, rfl⟩ := List.mem_map.mp listed
    exact ⟨row, known, Option.some.inj found⟩
  · rintro ⟨row, member, rfl⟩
    have listed : stratumLabel row.stratum ∈
        rows.map fun row => stratumLabel row.stratum :=
      List.mem_map.mpr ⟨row, member, rfl⟩
    have found := tallies (stratumLabel row.stratum)
    rw [if_neg (List.count_pos_iff.mpr listed).ne'] at found
    exact Dict.mem_values_of_get? _ found

/-- A plan has the responses in a balanced number for each label. -/
theorem calibrationPlan_eq (seed : ℤ) (responses : List CalibrationCandidate) :
    (∃ plan, calibrationPlan seed responses = .ok plan ∧
        plan.responses = responses ∧
        IsLevel (responses.map CalibrationCandidate.stratum)
          (labelCount responses)) ∨
      calibrationPlan seed responses = .error (.valueError
        "available strata cannot satisfy a balanced calibration sample") ∧
      ¬ IsLevel (responses.map CalibrationCandidate.stratum)
          (labelCount responses) := by
  have level : (∀ first ∈ (labelCounts responses).values,
      ∀ second ∈ (labelCounts responses).values, first ≤ second + 1) ↔
      IsLevel (responses.map CalibrationCandidate.stratum)
        (labelCount responses) := by
    simp only [mem_values_labelCounts, IsLevel, List.mem_map]
    constructor
    · rintro close _ ⟨row, member, rfl⟩ _ ⟨other, member', rfl⟩
      exact close _ ⟨row, member, rfl⟩ _ ⟨other, member', rfl⟩
    · rintro close _ ⟨row, member, rfl⟩ _ ⟨other, member', rfl⟩
      exact close _ ⟨row, member, rfl⟩ _ ⟨other, member', rfl⟩
  rw [← level, ← spread_le_one_iff, calibrationPlan]
  split_ifs with wide
  · exact .inr ⟨rfl, not_le.mpr wide⟩
  · exact .inl ⟨_, rfl, rfl, not_lt.mp wide⟩

/-- The rows that the strata with a label have in the sample. -/
def labelShare (candidates : List CalibrationCandidate) (limit : ℕ)
    (stratum : CalibrationStratum) : ℕ :=
  (((calibrationStrata candidates).filter fun other =>
    stratumLabel other = stratumLabel stratum).map
      (stratumShare candidates limit)).sum

section Shares

variable {candidates : List CalibrationCandidate} {limit : ℕ}
  {queue : CalibrationStratum → List CalibrationCandidate}

/-- The responses with a label are those of its strata. -/
theorem labelCount_eq (of : IsQueue candidates queue)
    {responses : List CalibrationCandidate}
    (permuted : responses.Perm
      ((rounds (calibrationStrata candidates) limit queue).take limit))
    (stratum : CalibrationStratum) :
    labelCount responses stratum = labelShare candidates limit stratum := by
  have inside := of.subperm (.refl _) limit
  have parts := flatMap_filter_perm CalibrationCandidate.stratum
    (calibrationStrata_nodup candidates) fun row member =>
      stratum_mem_calibrationStrata (inside.subset member)
  have each : ∀ other ∈ calibrationStrata candidates,
      (((rounds (calibrationStrata candidates) limit queue).take limit).filter
        fun row => row.stratum = other).countP
          (fun row => stratumLabel row.stratum = stratumLabel stratum) =
      if stratumLabel other = stratumLabel stratum then
        stratumShare candidates limit other else 0 := by
    intro other listed
    rw [← of.length_filter_take listed]
    split_ifs with same
    · rw [List.countP_eq_length]
      intro row member
      have found := of_decide_eq_true (List.mem_filter.mp member).2
      exact decide_eq_true (found ▸ same)
    · rw [List.countP_eq_zero]
      intro row member labelled
      have found := of_decide_eq_true (List.mem_filter.mp member).2
      exact same (found ▸ of_decide_eq_true labelled)
  calc labelCount responses stratum
      = responses.countP fun row =>
          stratumLabel row.stratum = stratumLabel stratum := by
        rw [labelCount, List.count, List.countP_map]
        rfl
    _ = ((rounds (calibrationStrata candidates) limit queue).take
          limit).countP fun row =>
            stratumLabel row.stratum = stratumLabel stratum :=
        permuted.countP_eq _
    _ = ((calibrationStrata candidates).map fun other =>
          if stratumLabel other = stratumLabel stratum then
            stratumShare candidates limit other else 0).sum := by
        rw [← parts.countP_eq, List.countP_flatMap]
        exact congrArg List.sum (List.map_congr_left each)
    _ = labelShare candidates limit stratum := by
        rw [labelShare]
        generalize calibrationStrata candidates = strata
        induction strata with
        | nil => rfl
        | cons other strata induction =>
            rw [List.map_cons, List.sum_cons, induction]
            by_cases same : stratumLabel other = stratumLabel stratum
            · rw [if_pos same, List.filter_cons_of_pos (by simpa using same),
                List.map_cons, List.sum_cons]
            · rw [if_neg same, List.filter_cons_of_neg (by simpa using same),
                Nat.zero_add]

theorem share_fair (limit : ℕ) {first second : CalibrationStratum}
    (listed : first ∈ calibrationStrata candidates)
    (listed' : second ∈ calibrationStrata candidates) :
    stratumShare candidates limit first ≤
        stratumShare candidates limit second + 1 ∨
      stratumShare candidates limit second =
        (rowsIn candidates second).length := by
  have of := chosenFirst_isQueue candidates fun _ => true
  have fair := taken_le_succ (calibrationStrata_pairwise candidates) listed
    listed' (le_refl limit) of.tagged
  rwa [of.length_filter_take listed, of.length_filter_take listed',
    (of.perm second).length_eq] at fair

/-- The shares of the strata are nearly the same. -/
def SharesLevel (candidates : List CalibrationCandidate) (limit : ℕ) : Prop :=
  IsLevel (calibrationStrata candidates) (stratumShare candidates limit)

/-- The shares of the labels are nearly the same. -/
def LabelsLevel (candidates : List CalibrationCandidate) (limit : ℕ) : Prop :=
  IsLevel (calibrationStrata candidates) (labelShare candidates limit)

/-- Where the shares are not level, every stratum has one. -/
theorem share_pos_of_not_level (uneven : ¬ SharesLevel candidates limit)
    {stratum : CalibrationStratum}
    (listed : stratum ∈ calibrationStrata candidates) :
    0 < stratumShare candidates limit stratum := by
  by_contra none
  refine uneven fun first listed' second _ => ?_
  obtain ⟨row, member, rfl⟩ := (mem_calibrationStrata candidates).mp listed
  have some : 0 < (rowsIn candidates row.stratum).length :=
    List.length_pos_of_mem (mem_rowsIn.mpr ⟨member, rfl⟩)
  have fair := share_fair limit listed' listed
  omega

/-- Then a stratum with a single share has a single row. -/
theorem two_le_share_of_not_level (uneven : ¬ SharesLevel candidates limit)
    {stratum : CalibrationStratum}
    (listed : stratum ∈ calibrationStrata candidates)
    (two : 2 ≤ (rowsIn candidates stratum).length) :
    2 ≤ stratumShare candidates limit stratum := by
  by_contra few
  refine uneven fun first listed' second listed'' => ?_
  have positive := share_pos_of_not_level uneven listed''
  have fair := share_fair limit listed' listed
  omega

end Shares

/-- The sample is even where the shares are level. -/
theorem IsQueue.even_iff {candidates : List CalibrationCandidate} {limit : ℕ}
    {queue : CalibrationStratum → List CalibrationCandidate}
    (of : IsQueue candidates queue)
    (unique : (candidates.map CalibrationCandidate.responseId).Nodup)
    (fits : limit ≤ candidates.length) :
    IsEvenSample candidates limit
        ((rounds (calibrationStrata candidates) limit queue).take limit) ↔
      SharesLevel candidates limit := by
  have inside := of.subperm (.refl _) limit
  have shares : IsLevel (calibrationStrata candidates) (fun stratum =>
      (((rounds (calibrationStrata candidates) limit queue).take limit).filter
        fun row => row.stratum = stratum).length) ↔
      SharesLevel candidates limit := by
    refine forall₂_congr fun first listed => forall₂_congr fun second listed' =>
      ?_
    dsimp only
    rw [of.length_filter_take listed, of.length_filter_take listed']
  constructor
  · intro even
    exact shares.mp (isLevel_strata.mp even.even)
  · intro level
    exact ⟨of.length_take (.refl _) fits, ids_nodup_of_subperm unique inside,
      fun row member => inside.subset member,
      isLevel_strata.mpr (shares.mpr level)⟩

/-- No sample is even where the shares are not level. -/
theorem level_of_exists {candidates : List CalibrationCandidate} {limit : ℕ}
    {sample : List CalibrationCandidate}
    (unique : (candidates.map CalibrationCandidate.responseId).Nodup)
    (fits : limit ≤ candidates.length)
    (even : IsEvenSample candidates limit sample) :
    SharesLevel candidates limit := by
  have of := chosenFirst_isQueue candidates fun _ => true
  rw [← of.even_iff unique fits]
  exact even_of_exists unique even of (.refl _) fits

/-! ## Samples with both kinds -/

theorem lacksKind_eq_false_iff {rows : List CalibrationCandidate} :
    lacksKind rows = false ↔
      (∃ row ∈ rows, row.judgeHumanDisagreement) ∧
        ∃ row ∈ rows, row.knownFailure := by
  simp [lacksKind]

theorem isHard_of_disagreement (row : CalibrationCandidate)
    (found : row.judgeHumanDisagreement = true) : row.isHard = true := by
  rw [CalibrationCandidate.isHard, found, Bool.true_or]

theorem isHard_of_failure (row : CalibrationCandidate)
    (found : row.knownFailure = true) : row.isHard = true := by
  rw [CalibrationCandidate.isHard, found, Bool.or_true]

/-- One of two rows. -/
def isOneOf (first second row : CalibrationCandidate) : Bool :=
  row = first ∨ row = second

section Both

variable {candidates : List CalibrationCandidate} {limit : ℕ}
  {first second : CalibrationCandidate}
  (unique : (candidates.map CalibrationCandidate.responseId).Nodup)
  (known : first ∈ candidates) (known' : second ∈ candidates)
  (hard : first.isHard = true) (hard' : second.isHard = true)

/-- The chosen rows of a stratum. -/
def chosenIn (candidates : List CalibrationCandidate)
    (chosen : CalibrationCandidate → Bool) (stratum : CalibrationStratum) :
    List CalibrationCandidate :=
  (rowsIn candidates stratum).filter fun row => row.isHard && chosen row

theorem mem_chosenIn {chosen : CalibrationCandidate → Bool}
    {row : CalibrationCandidate} {stratum : CalibrationStratum} :
    row ∈ chosenIn candidates chosen stratum ↔
      row ∈ candidates ∧ row.stratum = stratum ∧ row.isHard = true ∧
        chosen row = true := by
  rw [chosenIn, List.mem_filter, mem_rowsIn, Bool.and_eq_true, and_assoc]

/-- Chosen rows are taken where there are places for all of them. -/
theorem chosenFirst_kept {chosen : CalibrationCandidate → Bool}
    {row : CalibrationCandidate}
    (member : row ∈ chosenIn candidates chosen row.stratum)
    (places : (chosenIn candidates chosen row.stratum).length ≤
      stratumShare candidates limit row.stratum) :
    row ∈ (rounds (calibrationStrata candidates) limit
      (chosenFirst candidates chosen)).take limit := by
  rw [(chosenFirst_isQueue candidates chosen).mem_take_iff
    (mem_chosenIn.mp member).1]
  change row ∈ (chosenIn candidates chosen row.stratum ++ _).take _
  rw [List.take_append, List.take_of_length_le places]
  exact List.mem_append_left _ member

include unique

theorem chosenIn_nodup (chosen : CalibrationCandidate → Bool)
    (stratum : CalibrationStratum) :
    (chosenIn candidates chosen stratum).Nodup :=
  (unique.of_map.filter _).filter _

/-- Two rows are at most two. -/
theorem length_chosenIn_le (stratum : CalibrationStratum) :
    (chosenIn candidates (isOneOf first second) stratum).length ≤ 2 := by
  have inside : chosenIn candidates (isOneOf first second) stratum ⊆
      [first, second] := by
    intro row member
    have one := (mem_chosenIn.mp member).2.2.2
    rw [isOneOf, decide_eq_true_eq] at one
    exact List.mem_pair.mpr one
  exact ((chosenIn_nodup unique _ stratum).subperm inside).length_le

include known known' hard hard'

/-- In an uneven sample there are places for both rows. -/
theorem chosenFirst_both (uneven : ¬ SharesLevel candidates limit) :
    first ∈ (rounds (calibrationStrata candidates) limit
        (chosenFirst candidates (isOneOf first second))).take limit ∧
      second ∈ (rounds (calibrationStrata candidates) limit
        (chosenFirst candidates (isOneOf first second))).take limit := by
  have places {row : CalibrationCandidate} (member : row ∈ candidates) :
      (chosenIn candidates (isOneOf first second) row.stratum).length ≤
        stratumShare candidates limit row.stratum := by
    have listed := stratum_mem_calibrationStrata member
    have few := @length_chosenIn_le candidates first second unique row.stratum
    have inside := List.length_filter_le
      (fun row => row.isHard && isOneOf first second row)
      (rowsIn candidates row.stratum)
    change (chosenIn candidates _ row.stratum).length ≤ _ at inside
    have positive := share_pos_of_not_level uneven listed
    by_cases two : 2 ≤ (rowsIn candidates row.stratum).length
    · exact few.trans (two_le_share_of_not_level uneven listed two)
    · omega
  refine ⟨chosenFirst_kept ?_ (places known),
    chosenFirst_kept ?_ (places known')⟩
  · exact mem_chosenIn.mpr ⟨known, rfl, hard, by simp [isOneOf]⟩
  · exact mem_chosenIn.mpr ⟨known', rfl, hard', by simp [isOneOf]⟩

omit unique in
/-- Alone in its stratum, a chosen row comes first. -/
theorem head_chosenFirst (apart : first = second ∨
      first.stratum ≠ second.stratum) :
    (chosenFirst candidates (isOneOf first second) first.stratum).head? =
        some first ∧
      (chosenFirst candidates (isOneOf first second) second.stratum).head? =
        some second := by
  have alone {row : CalibrationCandidate}
      (member : row ∈ chosenIn candidates (isOneOf first second) row.stratum)
      (only : ∀ other ∈ chosenIn candidates (isOneOf first second) row.stratum,
        other = row) :
      (chosenFirst candidates (isOneOf first second) row.stratum).head? =
        some row := by
    change (chosenIn candidates (isOneOf first second) row.stratum ++
      _).head? = _
    cases rows : chosenIn candidates (isOneOf first second) row.stratum with
    | nil =>
        rw [rows] at member
        cases member
    | cons other rest =>
        rw [rows] at only
        rw [only other List.mem_cons_self]
        rfl
  have one {row other : CalibrationCandidate}
      (member : other ∈ chosenIn candidates (isOneOf first second)
        row.stratum) :
      (other = first ∨ other = second) ∧ other.stratum = row.stratum := by
    obtain ⟨-, same, -, chosen⟩ := mem_chosenIn.mp member
    rw [isOneOf, decide_eq_true_eq] at chosen
    exact ⟨chosen, same⟩
  constructor
  · refine alone (mem_chosenIn.mpr
      ⟨known, rfl, hard, by simp [isOneOf]⟩) fun other member => ?_
    obtain ⟨rfl | rfl, same⟩ := one member
    · rfl
    · exact (apart.resolve_right fun different => different same.symm).symm
  · refine alone (mem_chosenIn.mpr
      ⟨known', rfl, hard', by simp [isOneOf]⟩) fun other member => ?_
    obtain ⟨rfl | rfl, same⟩ := one member
    · exact apart.resolve_right fun different => different same
    · rfl

/-- Two chosen rows of a stratum are its first ones. -/
theorem two_chosenFirst (different : first ≠ second)
    (same : first.stratum = second.stratum) :
    ∃ rest, chosenFirst candidates (isOneOf first second) first.stratum =
        first :: second :: rest ∨
      chosenFirst candidates (isOneOf first second) first.stratum =
        second :: first :: rest := by
  have member : first ∈ chosenIn candidates (isOneOf first second)
      first.stratum :=
    mem_chosenIn.mpr ⟨known, rfl, hard, by simp [isOneOf]⟩
  have member' : second ∈ chosenIn candidates (isOneOf first second)
      first.stratum :=
    mem_chosenIn.mpr ⟨known', same.symm, hard', by simp [isOneOf]⟩
  have few := @length_chosenIn_le candidates first second unique first.stratum
  refine ⟨((rowsIn candidates first.stratum).filter fun row =>
      row.isHard && !isOneOf first second row) ++
    (rowsIn candidates first.stratum).filter fun row => !row.isHard, ?_⟩
  change chosenIn candidates (isOneOf first second) first.stratum ++ _ = _ ∨
    chosenIn candidates (isOneOf first second) first.stratum ++ _ = _
  match chosenIn candidates (isOneOf first second) first.stratum, member,
    member', few with
  | [left, right], member, member', _ =>
      rcases List.mem_pair.mp member with rfl | rfl
      · obtain rfl :=
          (List.mem_pair.mp member').resolve_left (Ne.symm different)
        exact .inl rfl
      · obtain rfl := (List.mem_pair.mp member').resolve_right
          (Ne.symm different)
        exact .inr rfl
  | [left], member, member', _ =>
      exact absurd ((List.mem_singleton.mp member).trans
        (List.mem_singleton.mp member').symm) different

/-- A sample has room for both rows unless they are in one stratum that has a
single place. -/
theorem exists_even_both (level : SharesLevel candidates limit)
    (fits : limit ≤ candidates.length) (two : 2 ≤ limit)
    (room : first = second ∨ first.stratum ≠ second.stratum ∨
      (calibrationStrata candidates).length < limit) :
    ∃ sample, IsEvenSample candidates limit sample ∧
      first ∈ sample ∧ second ∈ sample := by
  have of := chosenFirst_isQueue candidates (isOneOf first second)
  have even := (of.even_iff unique fits).mpr level
  have listed := stratum_mem_calibrationStrata known
  have listed' := stratum_mem_calibrationStrata known'
  have front := List.perm_cons_erase listed
  obtain ⟨count, rfl⟩ : ∃ count, limit = count + 2 := ⟨limit - 2, by omega⟩
  by_cases apart : first = second ∨ first.stratum ≠ second.stratum
  · obtain ⟨head, head'⟩ :=
      head_chosenFirst known known' hard hard' apart
    rcases apart with rfl | different
    · refine ⟨_, even_of_exists unique even of front.symm fits, ?_, ?_⟩
      · exact @mem_take_rounds _ _ [] _ _ _ _ head _ (Nat.succ_pos _) _
      · exact @mem_take_rounds _ _ [] _ _ _ _ head' _ (Nat.succ_pos _) _
    · have listed'' : second.stratum ∈
          (calibrationStrata candidates).erase first.stratum :=
        (List.mem_erase_of_ne (Ne.symm different)).mpr listed'
      have front' := front.trans
        ((List.perm_cons_erase listed'').cons first.stratum)
      refine ⟨_, even_of_exists unique even of front'.symm fits, ?_, ?_⟩
      · exact @mem_take_rounds _ _ [] _ _ _ _ head _ (Nat.succ_pos _) _
      · exact @mem_take_rounds _ _ [first.stratum] _ _ _ _ head' _
          (Nat.lt_add_left count Nat.one_lt_two) _
  · obtain ⟨different, same⟩ := not_or.mp apart
    have few : (calibrationStrata candidates).length < count + 2 :=
      (room.resolve_left different).resolve_left same
    obtain ⟨rest, rows⟩ := two_chosenFirst unique known known' hard hard'
      different (not_not.mp same)
    have size : (first.stratum ::
        (calibrationStrata candidates).erase first.stratum).length =
        (calibrationStrata candidates).length := front.length_eq.symm
    have reached {row next : CalibrationCandidate}
        (queue : chosenFirst candidates (isOneOf first second) first.stratum =
          row :: next :: rest) :
        row ∈ (rounds (first.stratum ::
          (calibrationStrata candidates).erase first.stratum) (count + 2)
          (chosenFirst candidates (isOneOf first second))).take (count + 2) ∧
        next ∈ (rounds (first.stratum ::
          (calibrationStrata candidates).erase first.stratum) (count + 2)
          (chosenFirst candidates (isOneOf first second))).take
            (count + 2) := by
      constructor
      · exact @mem_take_rounds _ _ [] _ _ _ _ (by rw [queue]; rfl) _
          (Nat.succ_pos _) _
      · apply mem_take_rounds_tail
        refine @mem_take_rounds _ _ [] _ _ _ _ (by rw [queue]; rfl) _ ?_ _
        rw [size, List.length_nil]
        omega
    refine ⟨_, even_of_exists unique even of front.symm fits, ?_⟩
    rcases rows with queue | queue
    · exact reached queue
    · exact (reached queue).symm

end Both

/-! ## Complete sampling -/

/-- All hard rows are in one stratum, none is of both kinds, and there are at
most as many places as strata. -/
def Crowded (candidates : List CalibrationCandidate) (limit : ℕ) : Prop :=
  limit ≤ (calibrationStrata candidates).length ∧
    ∀ first ∈ candidates, first.judgeHumanDisagreement →
      ∀ second ∈ candidates, second.knownFailure →
        first ≠ second ∧ first.stratum = second.stratum

/-- Labels hide no uneven sample, and both kinds of hard rows are taken where
there is room for them. -/
structure KeepsBoth (candidates : List CalibrationCandidate) (limit : ℕ) :
    Prop where
  labels : LabelsLevel candidates limit → SharesLevel candidates limit
  kinds : SharesLevel candidates limit → Crowded candidates limit ∨
    Retains candidates limit CalibrationCandidate.judgeHumanDisagreement ∧
      Retains candidates limit CalibrationCandidate.knownFailure

/-- No ordinary row is picked before a hard one of its stratum. -/
def HardFirst (candidates responses : List CalibrationCandidate) : Prop :=
  ∀ row ∈ responses, row.isHard = false →
    ∀ other ∈ candidates, other.stratum = row.stratum →
      other.isHard = true → other ∈ responses

/-- With any draws, a plan is an even sample with the hard rows first, and a
kind is missed only where no even sample has both. -/
def CalibrationComplete (candidates : List CalibrationCandidate)
    (sampleSize : ℤ) : Prop :=
  ∀ (ρ : Type) (random : RandomSource ρ) (seed : ℤ),
    (∀ plan, planHumanCalibration random candidates sampleSize seed =
        .ok plan →
      IsEvenSample candidates sampleSize.toNat plan.responses ∧
        HardFirst candidates plan.responses) ∧
    (planHumanCalibration random candidates sampleSize seed =
        .error mustRetain →
      ¬ ∃ sample, IsEvenSample candidates sampleSize.toNat sample ∧
        lacksKind sample = false)

section Complete

variable {candidates : List CalibrationCandidate} {sampleSize : ℤ}

theorem calibration_complete_of_refused
    (refused : ¬ AcceptsCalibration candidates sampleSize) :
    CalibrationComplete candidates sampleSize := by
  intro ρ random seed
  obtain ⟨error, failed, other⟩ := @planHumanCalibration_refused ρ random
    candidates sampleSize seed refused
  rw [failed]
  exact ⟨nofun, fun missed => absurd (Except.error.inj missed) other⟩

/-- A response that the sample has, and that is ordinary, comes after all hard
ones of its stratum. -/
theorem selectedRows_hardFirst {ρ : Type} (random : RandomSource ρ)
    (seed : ℤ) :
    HardFirst candidates
      (selectedRows random candidates sampleSize seed) := by
  have of := arrangedStrata_isQueue random candidates seed
  intro row taken ordinary other member same hard
  have pool := (of.subperm (.refl _) _).subset taken
  rw [selectedRows, of.mem_take_iff pool] at taken
  rw [selectedRows, of.mem_take_iff member, same]
  refine of.mem_take taken ordinary hard ?_
  exact (of.perm row.stratum).mem_iff.mpr (mem_rowsIn.mpr ⟨member, same⟩)

theorem HardFirst.perm {rows others : List CalibrationCandidate}
    (hardFirst : HardFirst candidates rows) (permuted : others.Perm rows) :
    HardFirst candidates others := by
  intro row member ordinary other known same hard
  rw [permuted.mem_iff] at member ⊢
  exact hardFirst row member ordinary other known same hard

theorem IsEvenSample.perm {limit : ℕ} {rows others : List CalibrationCandidate}
    (even : IsEvenSample candidates limit rows) (permuted : others.Perm rows) :
    IsEvenSample candidates limit others := by
  refine ⟨permuted.length_eq.trans even.size,
    (permuted.map _).nodup_iff.mpr even.distinct,
    fun row member => even.drawn row (permuted.mem_iff.mp member), ?_⟩
  intro first listed second listed'
  dsimp only
  rw [(permuted.filter _).length_eq, (permuted.filter _).length_eq]
  exact even.even first listed second listed'

/-- In a crowded pool no even sample has both kinds. -/
theorem Crowded.lacks {limit : ℕ} (crowded : Crowded candidates limit)
    {sample : List CalibrationCandidate}
    (even : IsEvenSample candidates limit sample) :
    lacksKind sample = true := by
  by_contra both
  obtain ⟨⟨first, taken, found⟩, second, taken', found'⟩ :=
    lacksKind_eq_false_iff.mp (Bool.eq_false_iff.mpr both)
  obtain ⟨different, same⟩ := crowded.2 first (even.drawn first taken) found
    second (even.drawn second taken') found'
  have listed := stratum_mem_calibrationStrata (even.drawn first taken)
  have two : 1 < (sample.filter fun row =>
      row.stratum = first.stratum).length := by
    have inside : [first, second].Subperm
        (sample.filter fun row => row.stratum = first.stratum) := by
      refine List.Nodup.subperm (by simpa using different) ?_
      intro row member
      rw [List.mem_filter, decide_eq_true_eq]
      rcases List.mem_pair.mp member with rfl | rfl
      · exact ⟨taken, rfl⟩
      · exact ⟨taken', same.symm⟩
    exact inside.length_le
  have each : ∀ stratum ∈ calibrationStrata candidates,
      1 ≤ (sample.filter fun row => row.stratum = stratum).length := by
    intro stratum listed'
    have close := isLevel_strata.mp even.even _ listed _ listed'
    omega
  have total := List.sum_lt_sum (fun _ => 1) _ each ⟨_, listed, two⟩
  rw [sum_length_filter even.drawn, even.size] at total
  have more : (calibrationStrata candidates).length < limit := by
    simpa using total
  exact absurd crowded.1 (not_le.mpr more)

variable (accepts : AcceptsCalibration candidates sampleSize)

include accepts

theorem AcceptsCalibration.toNat_le :
    sampleSize.toNat ≤ candidates.length := by
  have fits := accepts.fits
  omega

theorem complete_of_keepsBoth (keeps : KeepsBoth candidates sampleSize.toNat) :
    CalibrationComplete candidates sampleSize := by
  intro ρ random seed
  have of := arrangedStrata_isQueue random candidates seed
  have fits := accepts.toNat_le
  have shuffled : (random.shuffle (arrangedStrata random candidates seed).2
      (selectedRows random candidates sampleSize seed)).1.Perm
        (selectedRows random candidates sampleSize seed) :=
    random.shuffle_perm _ _
  rw [planHumanCalibration_eq accepts]
  constructor
  · intro plan planned
    split_ifs at planned with lacks
    · rcases calibrationPlan_eq seed (random.shuffle
        (arrangedStrata random candidates seed).2
        (selectedRows random candidates sampleSize seed)).1 with
        ⟨other, same, responses, labels⟩ | ⟨failed, -⟩
      · rw [same] at planned
        cases planned
        rw [responses]
        refine ⟨IsEvenSample.perm ?_ shuffled,
          (selectedRows_hardFirst random seed).perm shuffled⟩
        rw [selectedRows, of.even_iff accepts.unique fits]
        by_contra uneven
        refine uneven (keeps.labels ?_)
        -- Every stratum has a response, and with it a label.
        have present : ∀ stratum ∈ calibrationStrata candidates,
            stratum ∈ (random.shuffle (arrangedStrata random candidates seed).2
              (selectedRows random candidates sampleSize seed)).1.map
                CalibrationCandidate.stratum := by
          intro stratum listed
          have positive := share_pos_of_not_level uneven listed
          rw [← of.length_filter_take listed] at positive
          obtain ⟨row, member⟩ := List.exists_mem_of_length_pos positive
          obtain ⟨taken, found⟩ := List.mem_filter.mp member
          exact List.mem_map.mpr
            ⟨row, shuffled.mem_iff.mpr taken, of_decide_eq_true found⟩
        intro first listed second listed'
        have close := labels first (present first listed) second
          (present second listed')
        rwa [labelCount_eq of shuffled, labelCount_eq of shuffled] at close
      · rw [failed] at planned
        cases planned
  · rintro missed ⟨sample, even, both⟩
    have lacks : lacksKind (selectedRows random candidates sampleSize seed) =
        true := by
      by_contra kept
      rw [if_neg kept] at missed
      rcases calibrationPlan_eq seed (random.shuffle
        (arrangedStrata random candidates seed).2
        (selectedRows random candidates sampleSize seed)).1 with
        ⟨other, same, -⟩ | ⟨failed, -⟩
      · rw [same] at missed
        cases missed
      · rw [failed] at missed
        exact absurd (Except.error.inj missed) (by decide)
    rcases keeps.kinds (level_of_exists accepts.unique fits even) with
      crowded | ⟨disagreement, failure⟩
    · rw [crowded.lacks even] at both
      cases both
    · have kept : lacksKind
          (selectedRows random candidates sampleSize seed) = false :=
        lacksKind_eq_false_iff.mpr
          ⟨of.retained isHard_of_disagreement disagreement,
            of.retained isHard_of_failure failure⟩
      rw [lacks] at kept
      cases kept

omit accepts in
/-- Some draws put the chosen rows first. -/
theorem exists_selectedRows (candidates : List CalibrationCandidate)
    (sampleSize : ℤ) (chosen : CalibrationCandidate → Bool) :
    ∃ script, selectedRows (RandomSource.scripted script) candidates sampleSize
        0 =
      (rounds (calibrationStrata candidates) sampleSize.toNat
        (chosenFirst candidates chosen)).take sampleSize.toNat := by
  obtain ⟨script, arranged⟩ := exists_chosenFirst candidates chosen
  refine ⟨script, ?_⟩
  have same : (arrangedStrata (RandomSource.scripted script) candidates 0).1 =
      chosenFirst candidates chosen := congrArg Prod.fst arranged
  rw [selectedRows, same]

/-- An uneven sample is returned where the labels hide it. -/
theorem level_of_complete
    (complete : CalibrationComplete candidates sampleSize)
    (labels : LabelsLevel candidates sampleSize.toNat) :
    SharesLevel candidates sampleSize.toNat := by
  by_contra uneven
  obtain ⟨⟨first, known, found⟩, second, known', found'⟩ :=
    lacksKind_eq_false_iff.mp accepts.kinds
  have both := chosenFirst_both accepts.unique known known'
    (isHard_of_disagreement first found) (isHard_of_failure second found')
    uneven
  obtain ⟨script, selected⟩ :=
    exists_selectedRows candidates sampleSize (isOneOf first second)
  have kept : lacksKind (selectedRows (RandomSource.scripted script) candidates
      sampleSize 0) = false := by
    rw [selected, lacksKind_eq_false_iff]
    exact ⟨⟨first, both.1, found⟩, second, both.2, found'⟩
  have planned := @planHumanCalibration_eq _ (RandomSource.scripted script)
    candidates sampleSize 0 accepts
  rw [kept, if_neg Bool.false_ne_true] at planned
  have of := arrangedStrata_isQueue (RandomSource.scripted script) candidates 0
  have shuffled := (RandomSource.scripted script).shuffle_perm
    (arrangedStrata (RandomSource.scripted script) candidates 0).2
    (selectedRows (RandomSource.scripted script) candidates sampleSize 0)
  have fits := accepts.toNat_le
  rcases calibrationPlan_eq 0 ((RandomSource.scripted script).shuffle
    (arrangedStrata (RandomSource.scripted script) candidates 0).2
    (selectedRows (RandomSource.scripted script) candidates sampleSize 0)).1
    with ⟨plan, same, responses, -⟩ | ⟨-, unbalanced⟩
  · have even := ((complete _ (RandomSource.scripted script) 0).1 plan
      (planned.trans same)).1
    exact uneven (level_of_exists accepts.unique fits even)
  · refine unbalanced fun stratum listed other listed' => ?_
    have inside : ∀ stratum ∈ ((RandomSource.scripted script).shuffle
        (arrangedStrata (RandomSource.scripted script) candidates 0).2
        (selectedRows (RandomSource.scripted script) candidates sampleSize
          0)).1.map CalibrationCandidate.stratum,
        stratum ∈ calibrationStrata candidates := by
      intro stratum listed
      obtain ⟨row, member, rfl⟩ := List.mem_map.mp listed
      exact stratum_mem_calibrationStrata
        ((of.subperm (.refl _) _).subset (shuffled.mem_iff.mp member))
    rw [labelCount_eq of shuffled, labelCount_eq of shuffled]
    exact labels stratum (inside stratum listed) other (inside other listed')

/-- A kind is missed with some draws unless places are left for it. -/
theorem exists_missed {kind : CalibrationCandidate → Bool}
    (missed : ¬ Retains candidates sampleSize.toNat kind)
    (needed : ∀ rows, (∀ row ∈ rows, kind row = false) →
      lacksKind rows = true) :
    ∃ script, planHumanCalibration (RandomSource.scripted script) candidates
      sampleSize 0 = .error mustRetain := by
  obtain ⟨script, selected⟩ :=
    exists_selectedRows candidates sampleSize fun row => !kind row
  refine ⟨script, ?_⟩
  rw [planHumanCalibration_eq accepts, selected,
    if_pos (needed _ (chosenFirst_missed candidates missed))]

theorem keepsBoth_of_complete
    (complete : CalibrationComplete candidates sampleSize) :
    KeepsBoth candidates sampleSize.toNat := by
  refine ⟨level_of_complete accepts complete, fun level => ?_⟩
  by_contra neither
  obtain ⟨roomy, unkept⟩ := not_or.mp neither
  have failing : ∃ script, planHumanCalibration (RandomSource.scripted script)
      candidates sampleSize 0 = .error mustRetain := by
    by_cases disagreement : Retains candidates sampleSize.toNat
        CalibrationCandidate.judgeHumanDisagreement
    · refine exists_missed accepts (fun failure =>
        unkept ⟨disagreement, failure⟩) fun rows none => ?_
      by_contra both
      obtain ⟨-, row, member, found⟩ :=
        lacksKind_eq_false_iff.mp (Bool.eq_false_iff.mpr both)
      rw [none row member] at found
      cases found
    · refine exists_missed accepts disagreement fun rows none => ?_
      by_contra both
      obtain ⟨⟨row, member, found⟩, -⟩ :=
        lacksKind_eq_false_iff.mp (Bool.eq_false_iff.mpr both)
      rw [none row member] at found
      cases found
  obtain ⟨script, failed⟩ := failing
  refine (complete _ (RandomSource.scripted script) 0).2 failed ?_
  have range := accepts.range
  have pair : ∃ first ∈ candidates, first.judgeHumanDisagreement = true ∧
      ∃ second ∈ candidates, second.knownFailure = true ∧
        (first = second ∨ first.stratum ≠ second.stratum ∨
          (calibrationStrata candidates).length < sampleSize.toNat) := by
    by_contra none
    push Not at none
    refine roomy ⟨?_, ?_⟩
    · obtain ⟨⟨first, known, found⟩, second, known', found'⟩ :=
        lacksKind_eq_false_iff.mp accepts.kinds
      exact (none first known found second known' found').2.2
    · intro first known found second known' found'
      obtain ⟨different, same, -⟩ := none first known found second known' found'
      exact ⟨different, same⟩
  obtain ⟨first, known, found, second, known', found', room⟩ := pair
  obtain ⟨sample, even, taken, taken'⟩ := exists_even_both accepts.unique known
    known' (isHard_of_disagreement first found)
    (isHard_of_failure second found') level accepts.toNat_le (by omega) room
  exact ⟨sample, even, lacksKind_eq_false_iff.mpr
    ⟨⟨first, taken, found⟩, second, taken', found'⟩⟩

end Complete

/-- Sampling is complete for exactly the pools in which labels hide no uneven
sample and places are left for both kinds. -/
theorem calibration_complete_iff (candidates : List CalibrationCandidate)
    (sampleSize : ℤ) :
    CalibrationComplete candidates sampleSize ↔
      (AcceptsCalibration candidates sampleSize →
        KeepsBoth candidates sampleSize.toNat) := by
  constructor
  · exact fun complete accepts => keepsBoth_of_complete accepts complete
  · intro keeps
    by_cases accepts : AcceptsCalibration candidates sampleSize
    · exact complete_of_keepsBoth accepts (keeps accepts)
    · exact calibration_complete_of_refused accepts

/-! ## A pool in which a kind is missed -/

def numberedResponse (disagreement failure : Bool) (number : ℕ) :
    CalibrationCandidate :=
  { responseId := String.ofList (List.replicate (number + 1) 'r')
    systemId := "baseline"
    questionType := "factoid"
    judgeHumanDisagreement := disagreement
    knownFailure := failure
    named := by
      have letters : strip (String.ofList
          (List.replicate (number + 1) 'r')) ≠ "" := by
        rw [strip_eq_self fun character member => by
          rw [String.toList_ofList] at member
          rw [List.eq_of_mem_replicate member]
          decide]
        intro empty
        have none := congrArg String.toList empty
        rw [String.toList_ofList] at none
        cases none
      intro text member
      simp only [List.mem_cons, List.not_mem_nil, or_false] at member
      rcases member with rfl | rfl | rfl
      · exact letters
      · decide
      · decide }

/-- A hundred disagreements and a known failure, in one stratum. -/
def crowdedPool : List CalibrationCandidate :=
  (List.range 100).map (numberedResponse true false) ++
    [numberedResponse false true 100]

theorem crowdedPool_stratum {row : CalibrationCandidate}
    (member : row ∈ crowdedPool) :
    row.systemId = "baseline" ∧ row.questionType = "factoid" := by
  rcases List.mem_append.mp member with listed | last
  · obtain ⟨number, -, rfl⟩ := List.mem_map.mp listed
    exact ⟨rfl, rfl⟩
  · obtain rfl := List.mem_singleton.mp last
    exact ⟨rfl, rfl⟩

theorem last_mem_crowdedPool :
    numberedResponse false true 100 ∈ crowdedPool :=
  List.mem_append_right _ (List.mem_singleton.mpr rfl)

theorem crowdedPool_unique :
    (crowdedPool.map CalibrationCandidate.responseId).Nodup := by
  have ids : crowdedPool.map CalibrationCandidate.responseId =
      (List.range 101).map fun number =>
        String.ofList (List.replicate (number + 1) 'r') := by
    rw [crowdedPool, List.map_append, List.map_map, List.range_succ,
      List.map_append]
    rfl
  rw [ids]
  refine List.Nodup.map (fun left right same => ?_) List.nodup_range
  have lengths := congrArg List.length (String.ofList_inj.mp same)
  rw [List.length_replicate, List.length_replicate] at lengths
  exact Nat.succ.inj lengths

theorem crowdedPool_accepts : AcceptsCalibration crowdedPool 100 := by
  have last := last_mem_crowdedPool
  refine ⟨by decide, ?_, crowdedPool_unique, ?_, ?_⟩
  · rw [crowdedPool, List.length_append, List.length_map, List.length_range]
    decide
  · rw [lacksKind_eq_false_iff]
    have first : numberedResponse true false 0 ∈ crowdedPool :=
      List.mem_append_left _ (List.mem_map.mpr
        ⟨0, List.mem_range.mpr (by decide), rfl⟩)
    exact ⟨⟨_, first, rfl⟩, _, last, rfl⟩
  · have only {β : Type} [DecidableEq β] (read : CalibrationCandidate → β)
        (value : β) (same : ∀ row ∈ crowdedPool, read row = value) :
        (crowdedPool.map read).toFinset = {value} := by
      ext other
      rw [List.mem_toFinset, List.mem_map, Finset.mem_singleton]
      constructor
      · rintro ⟨row, member, rfl⟩
        exact same row member
      · rintro rfl
        exact ⟨_, last, same _ last⟩
    have strata : ∀ row ∈ crowdedPool,
        row.stratum = toLex ("baseline", "factoid") := by
      intro row member
      obtain ⟨system, kind⟩ := crowdedPool_stratum member
      rw [CalibrationCandidate.stratum, system, kind]
    rw [coversStrata, only _ _ strata,
      only _ "baseline" fun row member => (crowdedPool_stratum member).1,
      only _ "factoid" fun row member => (crowdedPool_stratum member).2]
    rfl

/-- A hundred places are all taken by disagreements. -/
theorem crowdedPool_missed : ¬ CalibrationComplete crowdedPool 100 := by
  intro complete
  have accepts := crowdedPool_accepts
  have keeps := keepsBoth_of_complete accepts complete
  have single {stratum : CalibrationStratum}
      (listed : stratum ∈ calibrationStrata crowdedPool) :
      stratum = toLex ("baseline", "factoid") := by
    obtain ⟨row, member, rfl⟩ := (mem_calibrationStrata _).mp listed
    obtain ⟨system, kind⟩ := crowdedPool_stratum member
    rw [CalibrationCandidate.stratum, system, kind]
  have level : SharesLevel crowdedPool (100 : ℤ).toNat := by
    intro first listed second listed'
    rw [single listed, single listed']
    exact Nat.le_succ _
  rcases keeps.kinds level with crowded | ⟨-, row, member, failure, few⟩
  · have inside : calibrationStrata crowdedPool ⊆
        [toLex ("baseline", "factoid")] := fun stratum listed =>
      List.mem_singleton.mpr (single listed)
    have length := ((calibrationStrata_nodup crowdedPool).subperm
      inside).length_le
    exact absurd (crowded.1.trans length) (by decide)
  · have all : rowsIn crowdedPool row.stratum = crowdedPool := by
      rw [rowsIn, List.filter_eq_self]
      intro other known
      rw [single (stratum_mem_calibrationStrata member),
        single (stratum_mem_calibrationStrata known)]
      exact decide_eq_true rfl
    have others : 100 ≤ othersIn crowdedPool
        CalibrationCandidate.knownFailure row.stratum := by
      rw [othersIn, all, crowdedPool, List.countP_append, List.countP_map]
      refine le_trans ?_ (Nat.le_add_right _ _)
      rw [List.countP_eq_length.mpr, List.length_range]
      intro number _
      rfl
    have of := chosenFirst_isQueue crowdedPool fun _ => true
    have share :
        stratumShare crowdedPool (100 : ℤ).toNat row.stratum ≤ 100 := by
      rw [← of.length_filter_take (stratum_mem_calibrationStrata member)]
      refine (List.length_filter_le _ _).trans ?_
      exact (List.length_take_le _ _)
    exact absurd (others.trans_lt few) (not_lt.mpr share)

end RagBench
