import Mathlib.Data.List.MinMax
import Mathlib.Data.Finset.Card
import Mathlib.Data.Prod.Lex
import Mathlib.Data.String.Basic
import RagBench.Python
import RagBench.Sorting

/-!
# The top three generation outcomes

The outcomes of one cohort are ranked by quality.  The cheapest outcome whose
quality may reach that of the leader takes the third place when it is not among
the first three.  Metrics are exact rationals.
-/

namespace RagBench

/-! ## Outcomes -/

structure GenerationOutcomeFields where
  configHash : String
  cohortHash : String
  questionCount : ℤ
  correctness : ℚ
  faithfulness : ℚ
  citationF1 : ℚ
  abstentionAccuracy : ℚ
  meanLatencyMs : ℚ
  totalCostUsd : ℚ
  qualityCiLow : ℚ
  qualityCiHigh : ℚ
  judgeCalibrated : Bool
  deriving DecidableEq

namespace GenerationOutcomeFields

variable (fields : GenerationOutcomeFields)

def hasIdentities : Bool :=
  fields.configHash.length = 64 ∧ fields.cohortHash.length = 64

def hasQualities : Bool :=
  [fields.correctness, fields.faithfulness, fields.citationF1,
    fields.abstentionAccuracy, fields.qualityCiLow, fields.qualityCiHigh].all
    fun value => 0 ≤ value ∧ value ≤ 1

def hasInterval : Bool :=
  fields.qualityCiLow ≤ fields.qualityCiHigh

def hasCounts : Bool :=
  0 < fields.questionCount ∧ 0 ≤ fields.meanLatencyMs ∧
    0 ≤ fields.totalCostUsd

def isValid : Bool :=
  fields.hasIdentities ∧ fields.hasQualities ∧ fields.hasInterval ∧
    fields.hasCounts

end GenerationOutcomeFields

/-- A validated `GenerationOutcome`. -/
structure GenerationOutcome extends GenerationOutcomeFields where
  valid : toGenerationOutcomeFields.isValid = true
  deriving DecidableEq

/-- `GenerationOutcome(**fields)`. -/
def GenerationOutcomeFields.validate (fields : GenerationOutcomeFields) :
    Except PyException GenerationOutcome :=
  if valid : fields.isValid = true then
    .ok { toGenerationOutcomeFields := fields, valid }
  else if ¬ fields.hasIdentities then
    .error (.valueError "generation outcome identities must be SHA-256 digests")
  else if ¬ fields.hasQualities then
    .error (.valueError ("generation quality values must be finite and " ++
      "between zero and one"))
  else if ¬ fields.hasInterval then
    .error (.valueError "quality confidence interval is reversed")
  else
    .error (.valueError
      "generation counts, latency, and cost must be nonnegative")

namespace GenerationOutcome

variable (row : GenerationOutcome)

def quality : ℚ :=
  (row.correctness + row.faithfulness + row.citationF1 +
    row.abstentionAccuracy) / 4

/-- The declared order: the best row has the least key. -/
def rankKey : ℚ ×ₗ ℚ ×ₗ ℚ ×ₗ String :=
  toLex (-row.quality, toLex (row.meanLatencyMs,
    toLex (row.totalCostUsd, row.configHash)))

/-- The order of `best_value`. -/
def valueKey : ℚ ×ₗ ℚ ×ₗ String :=
  toLex (row.totalCostUsd, toLex (-row.quality, row.configHash))

end GenerationOutcome

/-! ## Selection -/

/-- The ranked rows whose quality may reach that of the leader. -/
def competitiveRows (leader : GenerationOutcome)
    (rows : List GenerationOutcome) : List GenerationOutcome :=
  rows.filter fun row => leader.qualityCiLow ≤ row.qualityCiHigh

def selectGenerationTopThree (outcomes : List GenerationOutcome) :
    Except PyException (List GenerationOutcome) := do
  raiseIf (outcomes.length < 3)
    (.valueError "at least three generation outcomes are required")
  raiseIf (¬ (outcomes.map fun row => row.configHash).Nodup)
    (.valueError "duplicate generation outcomes are not allowed")
  raiseIf ((outcomes.map fun row => row.cohortHash).toFinset.card ≠ 1 ∨
      (outcomes.map fun row => row.questionCount).toFinset.card ≠ 1)
    (.valueError
      "generation outcomes must use the same cohort and question count")
  raiseIf (¬ outcomes.all fun row => row.judgeCalibrated)
    (.valueError "generation selection requires calibrated judge status")
  match sortBy GenerationOutcome.rankKey outcomes with
  | [] => .error (.indexError "list index out of range")
  | leader :: rest =>
      match (competitiveRows leader (leader :: rest)).argmin
          GenerationOutcome.valueKey with
      | none => .error (.valueError "min() iterable argument is empty")
      | some bestValue =>
          let selected := (leader :: rest).take 3
          if bestValue ∈ selected then return selected
          else return selected.set 2 bestValue

/-! ## What is selected -/

/-- Outcomes that can be compared. -/
structure OneCohort (outcomes : List GenerationOutcome) : Prop where
  three : 3 ≤ outcomes.length
  hashes : (outcomes.map fun row => row.configHash).Nodup
  cohort : ∀ row ∈ outcomes, ∀ other ∈ outcomes,
    row.cohortHash = other.cohortHash
  questions : ∀ row ∈ outcomes, ∀ other ∈ outcomes,
    row.questionCount = other.questionCount
  calibrated : ∀ row ∈ outcomes, row.judgeCalibrated = true

/-- The row comes behind these rows, and before all others. -/
def RanksNext (outcomes before : List GenerationOutcome)
    (row : GenerationOutcome) : Prop :=
  row ∈ outcomes ∧ row ∉ before ∧
    ∀ other ∈ outcomes, other ∉ before → other ≠ row →
      row.rankKey < other.rankKey

/-- The cheapest row that may reach the leader. -/
def IsBestValue (outcomes : List GenerationOutcome)
    (leader row : GenerationOutcome) : Prop :=
  row ∈ competitiveRows leader outcomes ∧
    ∀ rival ∈ competitiveRows leader outcomes, rival ≠ row →
      row.valueKey < rival.valueKey

/-- The first, second and third row of a selection. -/
structure IsTopThree (outcomes : List GenerationOutcome)
    (first second third : GenerationOutcome) : Prop where
  distinct : [first, second, third].Nodup
  members : ∀ row ∈ [first, second, third], row ∈ outcomes
  leads : RanksNext outcomes [] first
  follows : RanksNext outcomes [first] second
  third_place : ∃ ranked bestValue,
    RanksNext outcomes [first, second] ranked ∧
      IsBestValue outcomes first bestValue ∧
      bestValue ∈ [first, second, third] ∧
      (bestValue ∈ [first, second, ranked] → third = ranked) ∧
      (bestValue ∉ [first, second, ranked] → third = bestValue)

private theorem card_toFinset_map {α β : Type} [DecidableEq β]
    {read : α → β} {items : List α} (started : items ≠ [])
    (same : ∀ item ∈ items, ∀ other ∈ items, read item = read other) :
    (items.map read).toFinset.card = 1 := by
  obtain ⟨first, rest, rfl⟩ := List.exists_cons_of_ne_nil started
  rw [Finset.card_eq_one]
  refine ⟨read first, Finset.eq_singleton_iff_unique_mem.mpr ⟨by simp, ?_⟩⟩
  intro value member
  obtain ⟨item, listed, rfl⟩ := List.mem_map.mp (List.mem_toFinset.mp member)
  exact same item listed first List.mem_cons_self

section Selection

variable {outcomes : List GenerationOutcome}

theorem rankKey_nodup (cohort : OneCohort outcomes) :
    (outcomes.map GenerationOutcome.rankKey).Nodup := by
  refine List.Nodup.of_map
    (fun key => (ofLex (ofLex (ofLex key).2).2).2) ?_
  rw [List.map_map]
  exact cohort.hashes

/-- The checks pass, and the ranked rows decide. -/
theorem selectGenerationTopThree_eq (cohort : OneCohort outcomes)
    {leader : GenerationOutcome} {rest : List GenerationOutcome}
    (ranked : sortBy GenerationOutcome.rankKey outcomes = leader :: rest) :
    selectGenerationTopThree outcomes =
      match (competitiveRows leader (leader :: rest)).argmin
          GenerationOutcome.valueKey with
      | none => .error (.valueError "min() iterable argument is empty")
      | some bestValue =>
          if bestValue ∈ (leader :: rest).take 3 then
            .ok ((leader :: rest).take 3)
          else .ok (((leader :: rest).take 3).set 2 bestValue) := by
  have started : outcomes ≠ [] := by
    rintro rfl
    have three := cohort.three
    simp at three
  have calibrated : (outcomes.all fun row => row.judgeCalibrated) = true :=
    List.all_eq_true.mpr cohort.calibrated
  rw [selectGenerationTopThree, raiseIf_bind (not_lt.mpr cohort.three),
    raiseIf_bind (not_not.mpr cohort.hashes),
    raiseIf_bind (by
      rw [card_toFinset_map started cohort.cohort,
        card_toFinset_map started cohort.questions]
      simp),
    raiseIf_bind (not_not.mpr calibrated), ranked]
  dsimp only
  split
  · rfl
  · split_ifs
    · rfl
    · rfl

/-- The ranked rows, one behind the other. -/
theorem exists_ranked (cohort : OneCohort outcomes) :
    ∃ first second third rest, sortBy GenerationOutcome.rankKey outcomes =
        first :: second :: third :: rest ∧
      (first :: second :: third :: rest).Perm outcomes ∧
      (first :: second :: third :: rest).Pairwise fun row later =>
        row.rankKey < later.rankKey := by
  have permuted := sortBy_perm GenerationOutcome.rankKey outcomes
  have sorted := sortBy_pairwise GenerationOutcome.rankKey outcomes
  have distinct := (permuted.map GenerationOutcome.rankKey).nodup_iff.mpr
    (rankKey_nodup cohort)
  have strict := (sorted.and (List.pairwise_map.mp distinct)).imp
    fun {row later} parts => lt_of_le_of_ne parts.1 parts.2
  have length := permuted.length_eq
  have three := cohort.three
  match ranked : sortBy GenerationOutcome.rankKey outcomes with
  | [] => simp [ranked] at length; omega
  | [_] => simp [ranked] at length; omega
  | [_, _] => simp [ranked] at length; omega
  | first :: second :: third :: rest =>
      rw [ranked] at permuted strict
      exact ⟨first, second, third, rest, rfl, permuted, strict⟩

/-- Among the rows behind those before, the first one ranks next. -/
private theorem ranksNext_of_sorted {before rest : List GenerationOutcome}
    {row : GenerationOutcome}
    (permuted : (before ++ row :: rest).Perm outcomes)
    (sorted : (before ++ row :: rest).Pairwise fun row later =>
      row.rankKey < later.rankKey) :
    RanksNext outcomes before row := by
  obtain ⟨-, behind, across⟩ := List.pairwise_append.mp sorted
  refine ⟨permuted.mem_iff.mp (by simp), fun member => ?_, ?_⟩
  · exact lt_irrefl _ (across row member row List.mem_cons_self)
  · intro other member notBefore different
    rw [← permuted.mem_iff, List.mem_append] at member
    rcases member with early | late
    · exact absurd early notBefore
    · rcases List.mem_cons.mp late with rfl | later
      · exact absurd rfl different
      · exact (List.pairwise_cons.mp behind).1 other later

/-- The minimum is the best value. -/
private theorem isBestValue_of_argmin (cohort : OneCohort outcomes)
    {leader bestValue : GenerationOutcome} {rows : List GenerationOutcome}
    (permuted : rows.Perm outcomes)
    (least : (competitiveRows leader rows).argmin GenerationOutcome.valueKey =
      some bestValue) :
    IsBestValue outcomes leader bestValue := by
  have same : (competitiveRows leader rows).Perm
      (competitiveRows leader outcomes) := permuted.filter _
  have member := same.mem_iff.mp (List.argmin_mem least)
  refine ⟨member, fun rival listed different => ?_⟩
  have low := List.le_of_mem_argmin (same.mem_iff.mpr listed) least
  refine lt_of_le_of_ne low fun tied => different ?_
  refine List.inj_on_of_nodup_map cohort.hashes
    (List.mem_of_mem_filter listed) (List.mem_of_mem_filter member) ?_
  exact congrArg (fun key => (ofLex (ofLex key).2).2) tied.symm

/-- The leader may reach itself. -/
private theorem exists_argmin (leader : GenerationOutcome)
    (rest : List GenerationOutcome) :
    ∃ bestValue, (competitiveRows leader (leader :: rest)).argmin
      GenerationOutcome.valueKey = some bestValue := by
  have interval : leader.qualityCiLow ≤ leader.qualityCiHigh := by
    have valid := leader.valid
    simp only [GenerationOutcomeFields.isValid,
      GenerationOutcomeFields.hasInterval, decide_eq_true_eq] at valid
    exact valid.2.2.1
  have inside : leader ∈ competitiveRows leader (leader :: rest) :=
    List.mem_filter.mpr ⟨List.mem_cons_self, decide_eq_true interval⟩
  cases least : (competitiveRows leader (leader :: rest)).argmin
      GenerationOutcome.valueKey with
  | none =>
      rw [List.argmin_eq_none] at least
      rw [least] at inside
      cases inside
  | some bestValue => exact ⟨bestValue, rfl⟩

/-- The selection keeps the two best rows and the best value, in one order for
every order of the outcomes. -/
theorem top_three_keeps_best_value (cohort : OneCohort outcomes) :
    (∃ first second third,
      selectGenerationTopThree outcomes = .ok [first, second, third] ∧
        IsTopThree outcomes first second third) ∧
      ∀ permuted, outcomes.Perm permuted →
        selectGenerationTopThree permuted =
          selectGenerationTopThree outcomes := by
  obtain ⟨first, second, ranked, rest, sorted, permuted, strict⟩ :=
    exists_ranked cohort
  obtain ⟨bestValue, least⟩ := exists_argmin first (second :: ranked :: rest)
  have selected := selectGenerationTopThree_eq cohort sorted
  rw [least] at selected
  have leads : RanksNext outcomes [] first :=
    ranksNext_of_sorted permuted strict
  have follows : RanksNext outcomes [first] second :=
    ranksNext_of_sorted permuted strict
  have next : RanksNext outcomes [first, second] ranked :=
    ranksNext_of_sorted permuted strict
  have best := isBestValue_of_argmin cohort permuted least
  have apart : first ≠ second := fun same =>
    follows.2.1 (same ▸ List.mem_singleton_self first)
  have apart' : ranked ≠ first ∧ ranked ≠ second := by
    have notBefore := next.2.1
    simp only [List.mem_cons, List.not_mem_nil, or_false, not_or] at notBefore
    exact notBefore
  refine ⟨?_, fun other moved => ?_⟩
  · change _ = if bestValue ∈ [first, second, ranked] then
      Except.ok [first, second, ranked]
        else .ok [first, second, bestValue] at selected
    by_cases listed : bestValue ∈ [first, second, ranked]
    · rw [if_pos listed] at selected
      refine ⟨first, second, ranked, selected, ?_⟩
      exact
        { distinct := by simp [apart, apart'.1.symm, apart'.2.symm]
          members := by simp [leads.1, follows.1, next.1]
          leads := leads
          follows := follows
          third_place := ⟨ranked, bestValue, next, best, listed,
            fun _ => rfl, fun missing => absurd listed missing⟩ }
    · rw [if_neg listed] at selected
      have member := List.mem_of_mem_filter best.1
      have different : bestValue ≠ first ∧ bestValue ≠ second := by
        simp only [List.mem_cons, List.not_mem_nil, or_false, not_or]
          at listed
        exact ⟨listed.1, listed.2.1⟩
      refine ⟨first, second, bestValue, selected, ?_⟩
      exact
        { distinct := by simp [apart, different.1.symm, different.2.symm]
          members := by simp [leads.1, follows.1, member]
          leads := leads
          follows := follows
          third_place := ⟨ranked, bestValue, next, best, by simp,
            fun present => absurd present listed, fun _ => rfl⟩ }
  · have again : OneCohort other :=
      { three := moved.length_eq ▸ cohort.three
        hashes := (moved.map _).nodup_iff.mp cohort.hashes
        cohort := fun row member twin member' =>
          cohort.cohort row (moved.mem_iff.mpr member) twin
            (moved.mem_iff.mpr member')
        questions := fun row member twin member' =>
          cohort.questions row (moved.mem_iff.mpr member) twin
            (moved.mem_iff.mpr member')
        calibrated := fun row member =>
          cohort.calibrated row (moved.mem_iff.mpr member) }
    have same := sortBy_eq_of_perm (rankKey_nodup cohort) moved
    rw [selectGenerationTopThree_eq cohort sorted,
      selectGenerationTopThree_eq again (same.symm.trans sorted)]

end Selection

/-- A development result; the hash is a repeated letter. -/
def sampleGeneration (letter : Char) (quality cost : ℚ)
    (within : 0 ≤ quality ∧ quality ≤ 1 ∧ 0 ≤ cost) : GenerationOutcome where
  configHash := String.ofList (List.replicate 64 letter)
  cohortHash := String.ofList (List.replicate 64 'f')
  questionCount := 500
  correctness := quality
  faithfulness := quality
  citationF1 := quality
  abstentionAccuracy := quality
  meanLatencyMs := 100
  totalCostUsd := cost
  qualityCiLow := quality
  qualityCiHigh := quality
  judgeCalibrated := true
  valid := by
    have digest (letter : Char) :
        (String.ofList (List.replicate 64 letter)).length = 64 := by
      rw [String.length_ofList, List.length_replicate]
    simp only [GenerationOutcomeFields.isValid,
      GenerationOutcomeFields.hasCounts, GenerationOutcomeFields.hasIdentities,
      GenerationOutcomeFields.hasInterval, GenerationOutcomeFields.hasQualities,
      digest]
    simp [within]

def sampleGenerations : List GenerationOutcome :=
  [sampleGeneration 'a' (9 / 10) 10 (by norm_num),
    sampleGeneration 'b' (8 / 10) 9 (by norm_num),
    sampleGeneration 'c' (7 / 10) 2 (by norm_num)]

theorem top_three_keeps_best_value_sample :
    ∃ first second third, selectGenerationTopThree sampleGenerations =
        .ok [first, second, third] ∧
      IsTopThree sampleGenerations first second third := by
  refine (top_three_keeps_best_value ?_).1
  refine ⟨by decide, by decide +kernel, ?_, ?_, ?_⟩
  all_goals simp [sampleGenerations, sampleGeneration]

end RagBench
