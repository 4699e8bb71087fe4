import RagBench.Evaluation.Calibration

/-!
# The rows of a calibration sample

A single pass takes the hard rows of a stratum before the others, and tells
neither disagreements from known failures.  How many rows a stratum has in the
sample depends on the sizes of the strata alone.
-/

namespace RagBench

open StratifiedDraw RoundRobin

abbrev CalibrationStratum := String ×ₗ String

section Pool

variable (candidates : List CalibrationCandidate)

/-- `sorted(strata)`. -/
def calibrationStrata : List CalibrationStratum :=
  sortBy id (groupInto CalibrationCandidate.stratum .empty candidates).keys

/-- The rows of a stratum. -/
def rowsIn (stratum : CalibrationStratum) : List CalibrationCandidate :=
  candidates.filter fun row => row.stratum = stratum

/-- The rows that a stratum has in the sample. -/
def stratumShare (limit : ℕ) (stratum : CalibrationStratum) : ℕ :=
  share (calibrationStrata candidates)
    (fun other => (rowsIn candidates other).length) limit stratum

theorem mem_calibrationStrata {stratum : CalibrationStratum} :
    stratum ∈ calibrationStrata candidates ↔
      ∃ row ∈ candidates, row.stratum = stratum := by
  rw [calibrationStrata, (sortBy_perm _ _).mem_iff, mem_keys_groupInto]
  simp [Dict.keys, Dict.empty]

theorem calibrationStrata_nodup : (calibrationStrata candidates).Nodup :=
  (sortBy_perm _ _).nodup_iff.mpr (groupInto _ _ candidates).nodup

theorem calibrationStrata_pairwise :
    (calibrationStrata candidates).Pairwise (· < ·) := by
  have distinct := calibrationStrata_nodup candidates
  refine List.Pairwise.imp₂ ?_ (sortBy_pairwise id _) distinct
  exact fun first second below different => lt_of_le_of_ne below different

variable {candidates}

theorem stratum_mem_calibrationStrata {row : CalibrationCandidate}
    (member : row ∈ candidates) :
    row.stratum ∈ calibrationStrata candidates :=
  (mem_calibrationStrata candidates).mpr ⟨row, member, rfl⟩

theorem mem_rowsIn {row : CalibrationCandidate}
    {stratum : CalibrationStratum} :
    row ∈ rowsIn candidates stratum ↔
      row ∈ candidates ∧ row.stratum = stratum := by
  rw [rowsIn, List.mem_filter, decide_eq_true_eq]

/-- The rows of all strata. -/
theorem flatMap_rowsIn_perm {keys : List CalibrationStratum}
    (permuted : keys.Perm (calibrationStrata candidates)) :
    (keys.flatMap (rowsIn candidates)).Perm candidates :=
  flatMap_filter_perm CalibrationCandidate.stratum
    (permuted.nodup_iff.mpr (calibrationStrata_nodup candidates))
    fun _ member =>
      permuted.mem_iff.mpr (stratum_mem_calibrationStrata member)

/-- Rows of the pool, counted by stratum. -/
theorem sum_length_filter {rows : List CalibrationCandidate}
    (within : ∀ row ∈ rows, row ∈ candidates) :
    ((calibrationStrata candidates).map fun stratum =>
      (rows.filter fun row => row.stratum = stratum).length).sum =
      rows.length := by
  rw [← List.length_flatMap]
  exact (flatMap_filter_perm CalibrationCandidate.stratum
    (calibrationStrata_nodup candidates)
    fun row member => stratum_mem_calibrationStrata (within row member)
    ).length_eq

end Pool

/-- The rows of each stratum, the hard ones first. -/
structure IsQueue (candidates : List CalibrationCandidate)
    (queue : CalibrationStratum → List CalibrationCandidate) : Prop where
  perm : ∀ stratum, (queue stratum).Perm (rowsIn candidates stratum)
  hard : ∀ stratum, (queue stratum).Pairwise fun left right =>
    (!left.isHard) ≤ (!right.isHard)

namespace IsQueue

variable {candidates : List CalibrationCandidate}
  {queue : CalibrationStratum → List CalibrationCandidate}
  (of : IsQueue candidates queue)

include of

theorem tagged : ∀ stratum, ∀ row ∈ queue stratum, row.stratum = stratum :=
  fun stratum _ member =>
    (mem_rowsIn.mp ((of.perm stratum).mem_iff.mp member)).2

/-- An ordinary row comes after all hard rows. -/
theorem mem_take {stratum : CalibrationStratum} {count : ℕ}
    {picked row : CalibrationCandidate}
    (taken : picked ∈ (queue stratum).take count)
    (ordinary : picked.isHard = false) (hard : row.isHard = true)
    (inside : row ∈ queue stratum) : row ∈ (queue stratum).take count := by
  rw [← List.take_append_drop count (queue stratum)] at inside
  rcases List.mem_append.mp inside with early | late
  · exact early
  · have sorted := of.hard stratum
    rw [← List.take_append_drop count (queue stratum)] at sorted
    have below := (List.pairwise_append.mp sorted).2.2 picked taken row late
    rw [ordinary, hard] at below
    exact absurd below (by decide)

variable {keys : List CalibrationStratum}
  (permuted : keys.Perm (calibrationStrata candidates))

include permuted

theorem flatMap_perm : (keys.flatMap queue).Perm candidates :=
  (List.Perm.flatMap_left _ fun stratum _ => of.perm stratum).trans
    (flatMap_rowsIn_perm permuted)

theorem subperm (limit : ℕ) :
    ((rounds keys limit queue).take limit).Subperm candidates :=
  (List.take_sublist _ _).subperm.trans
    ((rounds_subperm _ _ _).trans (of.flatMap_perm permuted).subperm)

theorem enough {limit : ℕ} (fits : limit ≤ candidates.length) :
    limit ≤ (keys.map fun stratum => (queue stratum).length).sum := by
  rw [← List.length_flatMap]
  rwa [(of.flatMap_perm permuted).length_eq]

theorem length_take {limit : ℕ} (fits : limit ≤ candidates.length) :
    ((rounds keys limit queue).take limit).length = limit := by
  rw [List.length_take, min_eq_left]
  exact le_length_rounds (of.enough permuted fits)

omit permuted

/-- A stratum has its share, of the first rows of its queue. -/
theorem filter_take {stratum : CalibrationStratum}
    (listed : stratum ∈ calibrationStrata candidates) (limit : ℕ) :
    ((rounds (calibrationStrata candidates) limit queue).take limit).filter
        (fun row => row.stratum = stratum) =
      (queue stratum).take (stratumShare candidates limit stratum) := by
  have sizes : (fun other => (queue other).length) = fun other =>
      (rowsIn candidates other).length :=
    funext fun other => (of.perm other).length_eq
  rw [stratumShare, ← sizes]
  exact filter_take_rounds_eq (calibrationStrata_pairwise candidates) listed
    (le_refl limit) of.tagged

theorem length_filter_take {stratum : CalibrationStratum}
    (listed : stratum ∈ calibrationStrata candidates) (limit : ℕ) :
    (((rounds (calibrationStrata candidates) limit queue).take limit).filter
        fun row => row.stratum = stratum).length =
      stratumShare candidates limit stratum := by
  rw [of.filter_take listed, List.length_take, (of.perm stratum).length_eq,
    min_eq_left]
  exact share_le _ _ _ _

theorem mem_take_iff {row : CalibrationCandidate}
    (member : row ∈ candidates) (limit : ℕ) :
    row ∈ (rounds (calibrationStrata candidates) limit queue).take limit ↔
      row ∈ (queue row.stratum).take
        (stratumShare candidates limit row.stratum) := by
  rw [← of.filter_take (stratum_mem_calibrationStrata member) limit,
    List.mem_filter]
  simp

end IsQueue

/-! ## Kinds of hard rows -/

/-- The hard rows of a stratum that are not of some kind. -/
def othersIn (candidates : List CalibrationCandidate)
    (kind : CalibrationCandidate → Bool) (stratum : CalibrationStratum) : ℕ :=
  (rowsIn candidates stratum).countP fun row => row.isHard && !kind row

/-- Some stratum with a row of a kind has more places than other hard rows. -/
def Retains (candidates : List CalibrationCandidate) (limit : ℕ)
    (kind : CalibrationCandidate → Bool) : Prop :=
  ∃ row ∈ candidates, kind row ∧
    othersIn candidates kind row.stratum <
      stratumShare candidates limit row.stratum

instance (candidates : List CalibrationCandidate) (limit : ℕ)
    (kind : CalibrationCandidate → Bool) :
    Decidable (Retains candidates limit kind) :=
  inferInstanceAs (Decidable (∃ row ∈ candidates, _))

section Kind

variable {candidates : List CalibrationCandidate}
  {queue : CalibrationStratum → List CalibrationCandidate}
  {kind : CalibrationCandidate → Bool}
  (isHard : ∀ row, kind row = true → row.isHard = true)

include isHard

/-- A sample with more places than other hard rows has the kind. -/
theorem IsQueue.retained (of : IsQueue candidates queue) {limit : ℕ}
    (retains : Retains candidates limit kind) :
    ∃ row ∈ (rounds (calibrationStrata candidates) limit queue).take limit,
      kind row := by
  obtain ⟨row, member, found, few⟩ := retains
  have listed : row ∈ queue row.stratum :=
    (of.perm row.stratum).mem_iff.mpr (mem_rowsIn.mpr ⟨member, rfl⟩)
  by_contra none
  have missing : ∀ other ∈ (queue row.stratum).take
      (stratumShare candidates limit row.stratum), kind other = false := by
    intro other taken
    obtain ⟨pool, same⟩ := mem_rowsIn.mp
      ((of.perm row.stratum).mem_iff.mp (List.mem_of_mem_take taken))
    rw [Bool.eq_false_iff]
    intro wanted
    refine none ⟨other, (of.mem_take_iff pool limit).mpr ?_, wanted⟩
    rwa [same]
  have others : ∀ other ∈ (queue row.stratum).take
      (stratumShare candidates limit row.stratum),
      (other.isHard && !kind other) = true := by
    intro other taken
    rw [missing other taken, Bool.not_false, Bool.and_true]
    by_contra ordinary
    have late := of.mem_take taken (Bool.eq_false_iff.mpr ordinary)
      (isHard row found) listed
    rw [missing row late] at found
    cases found
  have counted : stratumShare candidates limit row.stratum ≤
      othersIn candidates kind row.stratum := by
    calc stratumShare candidates limit row.stratum
        = ((queue row.stratum).take
            (stratumShare candidates limit row.stratum)).length := by
          rw [List.length_take, (of.perm row.stratum).length_eq, min_eq_left]
          exact share_le _ _ _ _
      _ = ((queue row.stratum).take
            (stratumShare candidates limit row.stratum)).countP
              fun other => other.isHard && !kind other :=
          (List.countP_eq_length.mpr others).symm
      _ ≤ (queue row.stratum).countP
            fun other => other.isHard && !kind other :=
          (List.take_sublist _ _).countP_le
      _ = othersIn candidates kind row.stratum :=
          (of.perm row.stratum).countP_eq _
  omega

omit isHard

/-! ## Chosen rows first -/

/-- The chosen hard rows of a stratum, the other hard ones and the rest. -/
def chosenFirst (candidates : List CalibrationCandidate)
    (chosen : CalibrationCandidate → Bool) (stratum : CalibrationStratum) :
    List CalibrationCandidate :=
  ((rowsIn candidates stratum).filter fun row => row.isHard && chosen row) ++
    (((rowsIn candidates stratum).filter fun row =>
        row.isHard && !chosen row) ++
      (rowsIn candidates stratum).filter fun row => !row.isHard)

theorem chosenFirst_isQueue (candidates : List CalibrationCandidate)
    (chosen : CalibrationCandidate → Bool) :
    IsQueue candidates (chosenFirst candidates chosen) := by
  constructor
  · intro stratum
    have hard := List.filter_append_perm CalibrationCandidate.isHard
      (rowsIn candidates stratum)
    have parts := List.filter_append_perm chosen
      ((rowsIn candidates stratum).filter CalibrationCandidate.isHard)
    rw [List.filter_filter, List.filter_filter] at parts
    rw [chosenFirst, ← List.append_assoc]
    refine List.Perm.trans (List.Perm.append_right _ ?_) hard
    simpa only [Bool.and_comm] using parts
  · intro stratum
    have early (keep : CalibrationCandidate → Bool) :
        ∀ row ∈ (rowsIn candidates stratum).filter fun row =>
          row.isHard && keep row, row.isHard = true := by
      intro row member
      have kept := (List.mem_filter.mp member).2
      rw [Bool.and_eq_true] at kept
      exact kept.1
    have late : ∀ row ∈ (rowsIn candidates stratum).filter fun row =>
        !row.isHard, row.isHard = false := by
      intro row member
      simpa using (List.mem_filter.mp member).2
    have first (rows others : List CalibrationCandidate)
        (hard : ∀ row ∈ rows, row.isHard = true) :
        ∀ row ∈ rows, ∀ other ∈ others, (!row.isHard) ≤ (!other.isHard) := by
      intro row member other _
      rw [hard row member]
      exact Bool.false_le _
    refine List.pairwise_append.mpr ⟨?_, List.pairwise_append.mpr
      ⟨?_, ?_, first _ _ (early fun row => !chosen row)⟩,
      first _ _ (early chosen)⟩
    · exact List.pairwise_of_forall_mem_list fun row member other member' =>
        first _ _ (early chosen) row member other member'
    · exact List.pairwise_of_forall_mem_list fun row member other member' =>
        first _ _ (early fun row => !chosen row) row member other member'
    · exact List.pairwise_of_forall_mem_list fun row member other member' => by
        rw [late row member, late other member']

/-- Where the other hard rows fill the places, the kind is missed. -/
theorem chosenFirst_missed (candidates : List CalibrationCandidate)
    {limit : ℕ} (missed : ¬ Retains candidates limit kind) :
    ∀ row ∈ (rounds (calibrationStrata candidates) limit
      (chosenFirst candidates fun row => !kind row)).take limit,
      kind row = false := by
  have of := chosenFirst_isQueue candidates fun row => !kind row
  intro row taken
  have member := (of.subperm (.refl _) limit).subset taken
  rw [of.mem_take_iff member] at taken
  rw [Bool.eq_false_iff]
  intro found
  have places : stratumShare candidates limit row.stratum ≤
      ((rowsIn candidates row.stratum).filter fun row =>
        row.isHard && !kind row).length := by
    rw [← List.countP_eq_length_filter]
    exact not_lt.mp fun few => missed ⟨row, member, found, few⟩
  rw [chosenFirst, List.take_append_of_le_length places] at taken
  have kept := (List.mem_filter.mp (List.mem_of_mem_take taken)).2
  rw [found, Bool.not_true, Bool.and_false] at kept
  cases kept

/-- Some draws put the chosen rows first. -/
theorem exists_chosenFirst (candidates : List CalibrationCandidate)
    (chosen : CalibrationCandidate → Bool) :
    ∃ script, arrange
        (shuffleThen (RandomSource.scripted script) hardFirst)
        (calibrationStrata candidates) script (rowsIn candidates) =
      (chosenFirst candidates chosen, []) := by
  have of := chosenFirst_isQueue candidates chosen
  obtain ⟨script, arranged⟩ := exists_arrange hardFirst
    (calibrationStrata_nodup candidates) fun stratum _ => of.perm stratum
  refine ⟨script, ?_⟩
  have drawn := arranged script []
  rw [List.append_nil] at drawn
  refine drawn.trans (Prod.ext (funext fun stratum => ?_) rfl)
  dsimp only
  split_ifs with listed
  · exact sortBy_eq_self (of.hard stratum)
  · have empty : rowsIn candidates stratum = [] := by
      rw [List.eq_nil_iff_forall_not_mem]
      intro row member
      obtain ⟨pool, same⟩ := mem_rowsIn.mp member
      exact listed (same ▸ stratum_mem_calibrationStrata pool)
    rw [chosenFirst, empty]
    rfl

end Kind

/-! ## Level samples -/

/-- A sample of distinct rows with as many rows of each stratum, up to one. -/
structure IsEvenSample (candidates : List CalibrationCandidate) (limit : ℕ)
    (sample : List CalibrationCandidate) : Prop where
  size : sample.length = limit
  distinct : (sample.map CalibrationCandidate.responseId).Nodup
  drawn : ∀ row ∈ sample, row ∈ candidates
  even : IsLevel (candidates.map CalibrationCandidate.stratum) fun stratum =>
    (sample.filter fun row => row.stratum = stratum).length

section Level

variable {candidates : List CalibrationCandidate} {limit : ℕ}
  {queue : CalibrationStratum → List CalibrationCandidate}
  (unique : (candidates.map CalibrationCandidate.responseId).Nodup)

theorem isLevel_strata {count : CalibrationStratum → ℕ} :
    IsLevel (candidates.map CalibrationCandidate.stratum) count ↔
      IsLevel (calibrationStrata candidates) count := by
  have same (stratum : CalibrationStratum) :
      stratum ∈ candidates.map CalibrationCandidate.stratum ↔
        stratum ∈ calibrationStrata candidates := by
    rw [List.mem_map, mem_calibrationStrata]
  simp only [IsLevel, same]

theorem ids_nodup_of_subperm {rows : List CalibrationCandidate}
    (unique : (candidates.map CalibrationCandidate.responseId).Nodup)
    (inside : rows.Subperm candidates) :
    (rows.map CalibrationCandidate.responseId).Nodup := by
  obtain ⟨part, same, sub⟩ := inside
  rw [← (same.map _).nodup_iff]
  exact (sub.map _).nodup unique

/-- Where an even sample exists, every round robin takes one. -/
theorem even_of_exists {sample : List CalibrationCandidate}
    (unique : (candidates.map CalibrationCandidate.responseId).Nodup)
    (even : IsEvenSample candidates limit sample)
    (of : IsQueue candidates queue) {keys : List CalibrationStratum}
    (permuted : keys.Perm (calibrationStrata candidates))
    (fits : limit ≤ candidates.length) :
    IsEvenSample candidates limit
      ((rounds keys limit queue).take limit) := by
  have inside := of.subperm permuted limit
  refine ⟨of.length_take permuted fits, ids_nodup_of_subperm unique inside,
    fun row member => inside.subset member, ?_⟩
  have distinct : keys.Nodup :=
    permuted.nodup_iff.mpr (calibrationStrata_nodup candidates)
  rw [isLevel_strata]
  refine @isLevel_of_exists _ (calibrationStrata candidates) _
    (fun stratum => (sample.filter fun row => row.stratum = stratum).length)
    (fun stratum => (queue stratum).length) ?_ ?_ ?_
    (isLevel_strata.mp even.even)
  · intro first listed second listed'
    exact taken_le_succ_of_nodup distinct (permuted.mem_iff.mpr listed)
      (permuted.mem_iff.mpr listed') (le_refl limit) of.tagged
  · intro stratum _
    have apart : (sample.filter fun row => row.stratum = stratum).Nodup :=
      even.distinct.of_map.filter _
    refine (apart.subperm fun row member => ?_).length_le
    obtain ⟨taken, same⟩ := List.mem_filter.mp member
    exact (of.perm stratum).mem_iff.mpr
      (mem_rowsIn.mpr ⟨even.drawn row taken, of_decide_eq_true same⟩)
  · rw [sum_length_filter even.drawn, even.size,
      sum_length_filter fun row member => inside.subset member,
      of.length_take permuted fits]

end Level

end RagBench
