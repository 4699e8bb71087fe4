import RagBench.Analysis.CostRows
import RagBench.Core.MarkedHash
import RagBench.Counters
import RagBench.DecimalError
import RagBench.Related
import Mathlib.Algebra.BigOperators.Ring.Finset
import Mathlib.Algebra.BigOperators.Ring.List

/-!
# Balance of the cost tables

Every usage is in one row, so net costs and counts add up.  A question is in
one generate row for each model, question type and cache status that its calls
had, and the parse total is shared out once for each of them.
-/

namespace RagBench

open Decimal

variable {platform : Platform} {bundle : AnalysisBundle}
  {vatMultiplier : ℚ} {publicSalt : String} {rows : List CostRow}

/-! ## What the rows are shares of -/

/-- What the experiment paid for parsing. -/
def parseTotal (bundle : AnalysisBundle) (experimentId : String) : ℚ :=
  ((bundle.usage.filter fun row => row.experimentId = experimentId ∧
    row.operation = "parse" ∧ ¬ row.cached).map
      AnalysisUsage.estimatedCostUsd).sum

/-- The number of questions of the experiment. -/
def questionCount (bundle : AnalysisBundle) (experimentId : String) : ℕ :=
  (bundle.results.map AnalysisResult.experimentId).count experimentId

def netTotal (usageRows : List AnalysisUsage) : ℚ :=
  (usageRows.map AnalysisUsage.estimatedCostUsd).sum

def isGenerateOf (experimentId : String) (group : CostGroup) : Bool :=
  group.experimentId = experimentId ∧ group.operation = "generate"

/-- The exact share of a row, before rounding. -/
def parseShare (bundle : AnalysisBundle)
    (entry : CostGroup × List AnalysisUsage) : ℚ :=
  if entry.1.operation = "generate" then
    parseTotal bundle entry.1.experimentId *
      (coveredQuestions entry.2).card /
        questionCount bundle entry.1.experimentId
  else 0

/-- The groups with their rows. -/
def keyedRows (bundle : AnalysisBundle) (rows : List CostRow) :
    List ((CostGroup × List AnalysisUsage) × CostRow) :=
  (costGroups bundle).zip rows

/-- The generate rows of an experiment. -/
def generateRows (bundle : AnalysisBundle) (rows : List CostRow)
    (experimentId : String) :
    List ((CostGroup × List AnalysisUsage) × CostRow) :=
  (keyedRows bundle rows).filter fun entry =>
    isGenerateOf experimentId entry.1.1

/-- What rounding did to the share of a row. -/
def shareRounding (bundle : AnalysisBundle)
    (entry : (CostGroup × List AnalysisUsage) × CostRow) : ℚ :=
  entry.2.parseAmortizedCostUsd - parseShare bundle entry.1

/-- What rounding did to the net cost of a row. -/
def netRounding (entry : (CostGroup × List AnalysisUsage) × CostRow) : ℚ :=
  entry.2.netCostUsd - netTotal entry.1.2

/-- Every question of the experiment has a generate usage. -/
def IsCovered (bundle : AnalysisBundle) (experimentId : String) : Prop :=
  ∀ result ∈ bundle.results, result.experimentId = experimentId →
    ∃ row ∈ bundle.usage, row.experimentId = experimentId ∧
      row.operation = "generate" ∧ row.questionId = some result.questionId

/-- Half a millionth, and what the operations before the last one can add. -/
def roundingBound (delta : ℚ) (steps : ℕ) (exact : ℚ) : ℚ :=
  1 / 2000000 + ((1 + delta) ^ steps - 1) * exact

/-- The tables neither lose nor double-count money. -/
structure TablesBalance (platform : Platform) (bundle : AnalysisBundle)
    (rows : List CostRow) : Prop where
  atMost : ∀ config ∈ bundle.configs,
    ((generateRows bundle rows config.experimentId).map fun entry =>
        entry.2.parseAmortizedCostUsd).sum ≤
      parseTotal bundle config.experimentId +
        ((generateRows bundle rows config.experimentId).map
          (shareRounding bundle)).sum
  allShared : ∀ config ∈ bundle.configs,
    IsCovered bundle config.experimentId →
    ((generateRows bundle rows config.experimentId).map fun entry =>
        entry.2.parseAmortizedCostUsd).sum =
      parseTotal bundle config.experimentId +
        ((generateRows bundle rows config.experimentId).map
          (shareRounding bundle)).sum
  net : (rows.map CostRow.netCostUsd).sum = netTotal bundle.usage +
    ((keyedRows bundle rows).map netRounding).sum
  callCount : (rows.map CostRow.callCount).sum = bundle.usage.length
  /-- The rounding of a row is small. -/
  rounding : ∀ delta, 0 ≤ delta → platform.context.Within delta →
    ∀ entry ∈ keyedRows bundle rows,
      |netRounding entry| ≤
          roundingBound delta entry.1.2.length (netTotal entry.1.2) ∧
        |shareRounding bundle entry| ≤ roundingBound delta
          (bundle.usage.length + 2) (parseShare bundle entry.1)

/-- Counting each question once for each generate row that it is in. -/
def coverage (bundle : AnalysisBundle) (experimentId : String) : ℕ :=
  (((costGroups bundle).filter fun entry =>
    isGenerateOf experimentId entry.1).map fun entry =>
      (coveredQuestions entry.2).card).sum

/-- There is nothing to share, or no question is counted beyond the number of
questions. -/
def IsSharedOnce (bundle : AnalysisBundle) (experimentId : String) : Prop :=
  parseTotal bundle experimentId = 0 ∨
    (0 < questionCount bundle experimentId ∧
      coverage bundle experimentId ≤ questionCount bundle experimentId)

/-! ## Groups -/

theorem costGroups_perm (bundle : AnalysisBundle) :
    (costGroups bundle).Perm bundle.grouped.entries :=
  sortBy_perm _ _

/-- A group is what a filter by its key keeps. -/
theorem mem_costGroups {entry : CostGroup × List AnalysisUsage}
    (member : entry ∈ costGroups bundle) :
    entry.2 = bundle.usage.filter (AnalysisUsage.group · = entry.1) := by
  have listed := (costGroups_perm bundle).mem_iff.mp member
  have found : bundle.grouped.getD entry.1 [] = entry.2 :=
    Dict.getD_eq_of_mem _ listed []
  rw [AnalysisBundle.grouped, getD_groupInto] at found
  exact found.symm

/-- The groups contain every usage once. -/
theorem costGroups_flatMap (bundle : AnalysisBundle) :
    ((costGroups bundle).flatMap Prod.snd).Perm bundle.usage := by
  have within : ∀ row ∈ bundle.usage, row.group ∈ bundle.grouped.keys :=
    fun row member => (mem_keys_groupInto _ _ _ _).mpr
      (.inr ⟨row, member, rfl⟩)
  have values : bundle.grouped.entries.flatMap Prod.snd =
      bundle.grouped.keys.flatMap fun wanted =>
        bundle.usage.filter (AnalysisUsage.group · = wanted) := by
    have same := values_groupInto AnalysisUsage.group bundle.usage
    rw [List.flatMap_def, List.flatMap_def]
    exact congrArg List.flatten same
  refine ((costGroups_perm bundle).flatMap_right Prod.snd).trans ?_
  rw [values]
  exact flatMap_filter_perm _ bundle.grouped.nodup within

private theorem sum_map_flatMap {M : Type} [AddCommMonoid M] {α β : Type}
    (read : β → M) (parts : α → List β) (items : List α) :
    ((items.flatMap parts).map read).sum =
      (items.map fun item => ((parts item).map read).sum).sum := by
  induction items with
  | nil => rfl
  | cons item items induction =>
      rw [List.flatMap_cons, List.map_append, List.sum_append, induction,
        List.map_cons, List.sum_cons]

theorem netTotal_groups (bundle : AnalysisBundle) :
    ((costGroups bundle).map fun entry => netTotal entry.2).sum =
      netTotal bundle.usage := by
  have whole := (costGroups_flatMap bundle).map AnalysisUsage.estimatedCostUsd
  rw [netTotal, ← whole.sum_eq, sum_map_flatMap]
  rfl

theorem length_groups (bundle : AnalysisBundle) :
    ((costGroups bundle).map fun entry => entry.2.length).sum =
      bundle.usage.length := by
  rw [← (costGroups_flatMap bundle).length_eq, List.length_flatMap]

private theorem card_le_sum {α : Type} {cover : α → Finset String}
    (items : List α) (questions : Finset String)
    (covered : ∀ question ∈ questions, ∃ item ∈ items,
      question ∈ cover item) :
    questions.card ≤ (items.map fun item => (cover item).card).sum := by
  induction items generalizing questions with
  | nil =>
      have empty : questions = ∅ := by
        rw [Finset.eq_empty_iff_forall_notMem]
        intro question member
        obtain ⟨_, none, -⟩ := covered question member
        cases none
      simp [empty]
  | cons item items induction =>
      have rest := induction (questions \ cover item) fun question member => by
        obtain ⟨inside, outside⟩ := Finset.mem_sdiff.mp member
        obtain ⟨other, listed, holds⟩ := covered question inside
        rcases List.mem_cons.mp listed with rfl | later
        · exact absurd holds outside
        · exact ⟨other, later, holds⟩
      have split := Finset.card_sdiff_add_card_inter questions (cover item)
      have inside : (questions ∩ cover item).card ≤ (cover item).card :=
        Finset.card_le_card Finset.inter_subset_right
      rw [List.map_cons, List.sum_cons]
      omega

/-- The distinct questions of an experiment. -/
def questionsOf (bundle : AnalysisBundle) (experimentId : String) :
    Finset String :=
  ((bundle.results.filter fun result =>
    result.experimentId = experimentId).map AnalysisResult.questionId).toFinset

theorem card_questionsOf (bundle : AnalysisBundle) (experimentId : String) :
    (questionsOf bundle experimentId).card =
      questionCount bundle experimentId := by
  have distinct : ((bundle.results.filter fun result =>
      result.experimentId = experimentId).map
        AnalysisResult.questionId).Nodup := by
    have pairs := List.pairwise_map.mp bundle.results_unique
    refine List.pairwise_map.mpr ((pairs.filter _).imp_of_mem ?_)
    intro left right member member' other same
    have first := of_decide_eq_true (List.mem_filter.mp member).2
    have second := of_decide_eq_true (List.mem_filter.mp member').2
    exact other (Prod.ext (first.trans second.symm) same)
  rw [questionsOf, List.toFinset_card_of_nodup distinct, List.length_map,
    questionCount, List.count_eq_countP, List.countP_map,
    List.countP_eq_length_filter]
  congr 1

/-- A covered experiment counts each of its questions at least once. -/
theorem questionCount_le_coverage {experimentId : String}
    (covered : IsCovered bundle experimentId) :
    questionCount bundle experimentId ≤ coverage bundle experimentId := by
  rw [← card_questionsOf, coverage]
  refine card_le_sum _ _ fun question member => ?_
  obtain ⟨result, listed, rfl⟩ := List.mem_map.mp (List.mem_toFinset.mp member)
  obtain ⟨known, same⟩ := List.mem_filter.mp listed
  obtain ⟨row, inUsage, experiment, operation, asked⟩ :=
    covered result known (of_decide_eq_true same)
  obtain ⟨entry, inGroups, inEntry⟩ := List.mem_flatMap.mp
    ((costGroups_flatMap bundle).mem_iff.mpr inUsage)
  have group : row.group = entry.1 := by
    rw [mem_costGroups inGroups] at inEntry
    exact of_decide_eq_true (List.mem_filter.mp inEntry).2
  refine ⟨entry, List.mem_filter.mpr ⟨inGroups, ?_⟩, ?_⟩
  · rw [isGenerateOf, ← group]
    exact decide_eq_true ⟨experiment, operation⟩
  · refine List.mem_toFinset.mpr (List.mem_filterMap.mpr ⟨row, inEntry, ?_⟩)
    rw [asked]
    simp [result.named]

/-! ## Rows -/

theorem buildCostRows_ok {consoleGrossUsd : Option ℚ}
    {reconciliation : ReconciliationRow}
    (built : buildCostRows platform bundle vatMultiplier consoleGrossUsd
      publicSalt = .ok (rows, reconciliation)) :
    List.Forall₂ (fun entry row =>
      costRow platform bundle vatMultiplier publicSalt entry = .ok row)
        (costGroups bundle) rows := by
  obtain ⟨_, -, built⟩ := bind_eq_ok.mp built
  obtain ⟨_, mapped, built⟩ := bind_eq_ok.mp built
  obtain ⟨_, -, built⟩ := bind_eq_ok.mp built
  cases built
  exact mapM_eq_ok.mp mapped

private theorem CostRow.validate_ok {row checked : CostRow}
    (valid : row.validate = .ok checked) : checked = row := by
  unfold CostRow.validate at valid
  split_ifs at valid
  exact (Except.ok.inj valid).symm

/-- What the row of a group holds. -/
theorem costRow_ok {entry : CostGroup × List AnalysisUsage} {row : CostRow}
    (built : costRow platform bundle vatMultiplier publicSalt entry =
      .ok row) :
    quantizeHalfUp platform.context (decimalSum platform.context
        (entry.2.map AnalysisUsage.estimatedCostUsd)) = .ok row.netCostUsd ∧
      amortizedCost platform bundle entry.1 entry.2 =
        .ok row.parseAmortizedCostUsd ∧
      row.callCount = entry.2.length := by
  obtain ⟨net, netResult, built⟩ := bind_eq_ok.mp built
  obtain ⟨amortized, amortizedResult, built⟩ := bind_eq_ok.mp built
  obtain ⟨configHash, -, built⟩ := bind_eq_ok.mp built
  obtain ⟨publicId, -, built⟩ := bind_eq_ok.mp built
  obtain ⟨gross, -, built⟩ := bind_eq_ok.mp built
  obtain rfl := CostRow.validate_ok built
  exact ⟨netResult, amortizedResult, rfl⟩

/-! ## Rounding -/

theorem halfUp_error (value : ℚ) : |(halfUp value : ℚ) - value| ≤ 1 / 2 := by
  have near : ∀ value : ℚ, |(⌊value + 1 / 2⌋ : ℚ) - value| ≤ 1 / 2 := by
    intro value
    have lower := Int.floor_le (value + 1 / 2)
    have upper := Int.lt_floor_add_one (value + 1 / 2)
    rw [abs_le]
    constructor <;> linarith
  unfold halfUp
  split_ifs
  · exact near value
  · have mirrored := near (-value)
    push_cast
    rw [← abs_neg]
    convert mirrored using 2
    ring

theorem quantizeHalfUp_error {context : Decimal.Context} {value result : ℚ}
    (success : quantizeHalfUp context value = .ok result) :
    |result - value| ≤ 1 / 2000000 := by
  unfold quantizeHalfUp at success
  dsimp only at success
  split_ifs at success
  obtain rfl := Except.ok.inj success
  have error := halfUp_error (value * 10 ^ 6)
  rw [abs_le] at error ⊢
  constructor <;> linarith [error.1, error.2]

/-- A quantized value that was near is within the bound. -/
theorem Decimal.Near.quantize {context : Decimal.Context} {delta : ℚ}
    {steps : ℕ} {computed exact result : ℚ}
    (near : Near delta steps computed exact)
    (success : quantizeHalfUp context computed = .ok result) :
    |result - exact| ≤ roundingBound delta steps exact :=
  calc
    |result - exact| ≤ |result - computed| + |computed - exact| :=
      abs_sub_le _ _ _
    _ ≤ roundingBound delta steps exact :=
      add_le_add (quantizeHalfUp_error success) near.error

theorem decimalSum_near {context : Decimal.Context} {delta : ℚ}
    (within : context.Within delta) (small : 0 ≤ delta) {values : List ℚ}
    (nonneg : ∀ value ∈ values, 0 ≤ value) :
    Near delta values.length (decimalSum context values) values.sum := by
  have general : ∀ (values : List ℚ) (steps : ℕ) (computed exact : ℚ),
      (∀ value ∈ values, 0 ≤ value) → Near delta steps computed exact →
      Near delta (steps + values.length)
        (values.foldl (fun total value => context.fix (total + value))
          computed) (exact + values.sum) := by
    intro values
    induction values with
    | nil =>
        intro steps computed exact _ near
        simpa using near
    | cons value values induction =>
        intro steps computed exact nonneg near
        obtain ⟨first, rest⟩ := List.forall_mem_cons.mp nonneg
        have next := induction (steps + 1) _ _ rest
          ((near.add small first).fix within small)
        rw [List.foldl_cons, List.length_cons, List.sum_cons, ← add_assoc,
          ← add_assoc, Nat.add_right_comm]
        exact next
  have whole := general values 0 0 0 nonneg (Near.refl delta le_rfl)
  rw [Nat.zero_add, zero_add] at whole
  exact whole

theorem parseTotal_nonneg (bundle : AnalysisBundle) (experimentId : String) :
    0 ≤ parseTotal bundle experimentId := by
  refine List.sum_nonneg fun value member => ?_
  obtain ⟨row, -, rfl⟩ := List.mem_map.mp member
  exact row.cost_nonneg

theorem parseTotals_near {context : Decimal.Context} {delta : ℚ}
    (within : context.Within delta) (small : 0 ≤ delta)
    (experimentId : String) :
    Near delta bundle.usage.length
      ((bundle.parseTotals context).getD experimentId 0)
      (parseTotal bundle experimentId) := by
  have general : ∀ (usage : List AnalysisUsage) (totals : Dict String ℚ)
      (steps : ℕ) (exact : ℚ),
      Near delta steps (totals.getD experimentId 0) exact →
      Near delta (steps + usage.length)
        ((usage.foldl (fun totals row =>
          if row.operation = "parse" ∧ ¬ row.cached then
            totals.set row.experimentId (context.fix
              (totals.getD row.experimentId 0 + row.estimatedCostUsd))
          else totals) totals).getD experimentId 0)
        (exact + ((usage.filter fun row => row.experimentId = experimentId ∧
          row.operation = "parse" ∧ ¬ row.cached).map
            AnalysisUsage.estimatedCostUsd).sum) := by
    intro usage
    induction usage with
    | nil =>
        intro totals steps exact near
        simpa using near
    | cons row usage induction =>
        intro totals steps exact near
        rw [List.foldl_cons, List.length_cons, ← Nat.add_assoc,
          Nat.add_right_comm]
        by_cases parsed : row.operation = "parse" ∧ ¬ row.cached
        · rw [if_pos parsed]
          by_cases same : row.experimentId = experimentId
          · have kept : decide (row.experimentId = experimentId ∧
                row.operation = "parse" ∧ ¬ row.cached) = true :=
              decide_eq_true ⟨same, parsed⟩
            rw [List.filter_cons, if_pos kept, List.map_cons, List.sum_cons,
              ← add_assoc]
            apply induction
            rw [Dict.getD_set, if_pos same, same]
            exact (near.add small row.cost_nonneg).fix within small
          · rw [List.filter_cons, if_neg (by simp [same])]
            apply induction
            rw [Dict.getD_set, if_neg same]
            exact near.mono small (Nat.le_succ steps)
        · have dropped : ¬ decide (row.experimentId = experimentId ∧
              row.operation = "parse" ∧ ¬ row.cached) = true :=
            fun kept => parsed (of_decide_eq_true kept).2
          rw [if_neg parsed, List.filter_cons, if_neg dropped]
          exact induction _ _ _ (near.mono small (Nat.le_succ steps))
  have whole := general bundle.usage .empty 0 0 (Near.refl delta le_rfl)
  rw [Nat.zero_add, zero_add] at whole
  exact whole

theorem questionCounts_getD (bundle : AnalysisBundle)
    (experimentId : String) :
    bundle.questionCounts.getD experimentId 0 =
      questionCount bundle experimentId := by
  have counted := (Tallies.empty (κ := String)).countEach
    AnalysisResult.experimentId bundle.results
  rw [AnalysisBundle.questionCounts, counted.getD, Nat.zero_add]
  rfl

theorem roundingBound_nonneg {delta exact : ℚ} (small : 0 ≤ delta)
    (nonneg : 0 ≤ exact) (steps : ℕ) : 0 ≤ roundingBound delta steps exact := by
  have factor : (1 : ℚ) ≤ (1 + delta) ^ steps :=
    one_le_pow₀ (by linarith)
  have scaled := mul_nonneg (sub_nonneg.mpr factor) nonneg
  rw [roundingBound]
  linarith

theorem amortizedCost_error {delta amortized : ℚ} (small : 0 ≤ delta)
    (within : platform.context.Within delta)
    (entry : CostGroup × List AnalysisUsage)
    (success : amortizedCost platform bundle entry.1 entry.2 =
      .ok amortized) :
    |amortized - parseShare bundle entry| ≤ roundingBound delta
      (bundle.usage.length + 2) (parseShare bundle entry) := by
  unfold amortizedCost at success
  dsimp only at success
  rw [questionCounts_getD] at success
  rw [parseShare]
  split_ifs at success with shared
  · rw [if_pos shared.1]
    have total : Near delta bundle.usage.length _ _ :=
      parseTotals_near within small entry.1.experimentId
    have product := (total.mul (Nat.cast_nonneg
      (coveredQuestions entry.2).card)).fix within small
    have share := (product.div (Nat.cast_nonneg
      (questionCount bundle entry.1.experimentId))).fix within small
    exact share.quantize success
  · obtain rfl := Except.ok.inj success
    have nothing : (if entry.1.operation = "generate" then
        parseTotal bundle entry.1.experimentId *
          (coveredQuestions entry.2).card /
            questionCount bundle entry.1.experimentId else 0) = (0 : ℚ) := by
      split_ifs with generate
      · have empty := not_not.mp fun some => shared ⟨generate, some⟩
        rw [empty, Nat.cast_zero, div_zero]
      · rfl
    rw [nothing, sub_self, abs_zero]
    exact roundingBound_nonneg small le_rfl _

theorem costRow_rounding {delta : ℚ} (small : 0 ≤ delta)
    (within : platform.context.Within delta)
    {entry : (CostGroup × List AnalysisUsage) × CostRow}
    (built : costRow platform bundle vatMultiplier publicSalt entry.1 =
      .ok entry.2) :
    |netRounding entry| ≤
        roundingBound delta entry.1.2.length (netTotal entry.1.2) ∧
      |shareRounding bundle entry| ≤ roundingBound delta
        (bundle.usage.length + 2) (parseShare bundle entry.1) := by
  obtain ⟨net, amortized, -⟩ := costRow_ok built
  refine ⟨?_, amortizedCost_error small within _ amortized⟩
  have nonneg : ∀ value ∈ entry.1.2.map AnalysisUsage.estimatedCostUsd,
      0 ≤ value := by
    intro value member
    obtain ⟨row, -, rfl⟩ := List.mem_map.mp member
    exact row.cost_nonneg
  have bound := (decimalSum_near within small nonneg).quantize net
  rw [List.length_map] at bound
  exact bound

/-! ## Sums -/

/-- The shares of the generate rows of an experiment. -/
theorem sum_parseShare (bundle : AnalysisBundle) (experimentId : String) :
    (((costGroups bundle).filter fun entry =>
      isGenerateOf experimentId entry.1).map (parseShare bundle)).sum =
      parseTotal bundle experimentId * coverage bundle experimentId /
        questionCount bundle experimentId := by
  have shares : ((costGroups bundle).filter fun entry =>
      isGenerateOf experimentId entry.1).map (parseShare bundle) =
        ((costGroups bundle).filter fun entry =>
          isGenerateOf experimentId entry.1).map fun entry =>
            parseTotal bundle experimentId /
              questionCount bundle experimentId *
                ((coveredQuestions entry.2).card : ℚ) := by
    refine List.map_congr_left fun entry member => ?_
    obtain ⟨experiment, operation⟩ :=
      of_decide_eq_true (List.mem_filter.mp member).2
    rw [parseShare, if_pos operation, experiment]
    ring
  rw [shares, List.sum_map_mul_left, coverage, Nat.cast_list_sum,
    List.map_map, mul_div_right_comm]
  rfl

section Tables

variable (related : List.Forall₂ (fun entry row =>
  costRow platform bundle vatMultiplier publicSalt entry = .ok row)
    (costGroups bundle) rows)

include related

theorem keyedRows_ok {entry : (CostGroup × List AnalysisUsage) × CostRow}
    (member : entry ∈ keyedRows bundle rows) :
    costRow platform bundle vatMultiplier publicSalt entry.1 =
      .ok entry.2 :=
  (List.forall₂_iff_zip.mp related).2 member

theorem keyedRows_fst : (keyedRows bundle rows).map Prod.fst =
    costGroups bundle :=
  List.map_fst_zip related.length_eq.le

theorem keyedRows_snd : (keyedRows bundle rows).map Prod.snd = rows :=
  List.map_snd_zip related.length_eq.ge

theorem sum_net : (rows.map CostRow.netCostUsd).sum =
    netTotal bundle.usage +
      ((keyedRows bundle rows).map netRounding).sum := by
  rw [← netTotal_groups, ← keyedRows_fst related, List.map_map,
    ← List.sum_map_add]
  conv_lhs => rw [← keyedRows_snd related, List.map_map]
  refine congrArg List.sum (List.map_congr_left fun entry _ => ?_)
  simp [netRounding]

theorem sum_callCount : (rows.map CostRow.callCount).sum =
    bundle.usage.length := by
  rw [← length_groups, map_eq_of_forall₂
    (fun entry : CostGroup × List AnalysisUsage => entry.2.length)
    CostRow.callCount (fun _ _ built => (costRow_ok built).2.2) related]

theorem sum_amortized (experimentId : String) :
    ((generateRows bundle rows experimentId).map fun entry =>
        entry.2.parseAmortizedCostUsd).sum =
      parseTotal bundle experimentId * coverage bundle experimentId /
          questionCount bundle experimentId +
        ((generateRows bundle rows experimentId).map
          (shareRounding bundle)).sum := by
  have groups : (generateRows bundle rows experimentId).map Prod.fst =
      (costGroups bundle).filter fun entry =>
        isGenerateOf experimentId entry.1 := by
    rw [← keyedRows_fst related, List.filter_map]
    rfl
  rw [← sum_parseShare, ← groups, List.map_map, ← List.sum_map_add]
  refine congrArg List.sum (List.map_congr_left fun entry _ => ?_)
  simp [shareRounding]

/-- The shares add up when no question is counted twice. -/
theorem balanced_of_sharedOnce
    (once : ∀ config ∈ bundle.configs,
      IsSharedOnce bundle config.experimentId) :
    TablesBalance platform bundle rows where
  atMost := by
    intro config member
    rw [sum_amortized related]
    refine add_le_add_left ?_ _
    rcases once config member with nothing | ⟨positive, few⟩
    · rw [nothing, zero_mul, zero_div]
    · rw [div_le_iff₀ (by exact_mod_cast positive)]
      exact mul_le_mul_of_nonneg_left (by exact_mod_cast few)
        (parseTotal_nonneg _ _)
  allShared := by
    intro config member covered
    rw [sum_amortized related]
    congr 1
    rcases once config member with nothing | ⟨positive, few⟩
    · rw [nothing, zero_mul, zero_div]
    · rw [few.antisymm (questionCount_le_coverage covered)]
      exact mul_div_cancel_right₀ _ (by exact_mod_cast positive.ne')
  net := sum_net related
  callCount := sum_callCount related
  rounding _ small within _ member :=
    costRow_rounding small within (keyedRows_ok related member)

/-- A parse total that is shared out is shared out once. -/
theorem TablesBalance.sharedOnce (balanced : TablesBalance platform bundle rows)
    {config : AnalysisConfig} (member : config ∈ bundle.configs) :
    IsSharedOnce bundle config.experimentId := by
  by_cases nothing : parseTotal bundle config.experimentId = 0
  · exact .inl nothing
  have total : 0 < parseTotal bundle config.experimentId :=
    lt_of_le_of_ne (parseTotal_nonneg _ _) (Ne.symm nothing)
  have atMost := balanced.atMost config member
  rw [sum_amortized related, add_le_add_iff_right] at atMost
  have some : 0 < questionCount bundle config.experimentId := by
    by_contra none
    have empty : questionCount bundle config.experimentId = 0 := by omega
    -- Without questions nothing is shared, and every question is covered.
    have covered : IsCovered bundle config.experimentId := by
      intro result listed same
      have counted : 0 < questionCount bundle config.experimentId :=
        List.count_pos_iff.mpr (List.mem_map.mpr ⟨result, listed, same⟩)
      exact absurd counted none
    have allShared := balanced.allShared config member covered
    rw [sum_amortized related, empty, Nat.cast_zero, div_zero,
      add_right_cancel_iff] at allShared
    exact nothing allShared.symm
  refine .inr ⟨some, ?_⟩
  rw [div_le_iff₀ (by exact_mod_cast some), mul_le_mul_iff_right₀ total]
    at atMost
  exact_mod_cast atMost

end Tables

/-- The tables balance when each parse total is shared out once. -/
theorem cost_tables_balance_iff {consoleGrossUsd : Option ℚ}
    {reconciliation : ReconciliationRow}
    (built : buildCostRows platform bundle vatMultiplier consoleGrossUsd
      publicSalt = .ok (rows, reconciliation)) :
    TablesBalance platform bundle rows ↔ ∀ config ∈ bundle.configs,
      IsSharedOnce bundle config.experimentId :=
  ⟨fun balanced _ member =>
      balanced.sharedOnce (buildCostRows_ok built) member,
    balanced_of_sharedOnce (buildCostRows_ok built)⟩

/-- With 28 digits the operations add less than a part in 10²⁷ each. -/
theorem TablesBalance.net_rounding (balanced : TablesBalance platform bundle rows)
    (default : platform.context = .ofPrecision 28 (by decide))
    {entry : (CostGroup × List AnalysisUsage) × CostRow}
    (member : entry ∈ keyedRows bundle rows) :
    |netRounding entry| ≤ roundingBound (1 / 2 * 10 ^ (1 - 28 : ℤ))
      entry.1.2.length (netTotal entry.1.2) :=
  (balanced.rounding _ (by positivity)
    (default ▸ Context.ofPrecision_within 28 (by decide)) entry member).1

/-! ## Two bundles -/

def sampleConfig : AnalysisConfig :=
  { experimentId := digestOf 0 ++ "-1"
    configHash := digestOf 0
    hashed := digestOf_isHexDigest 0
    bound := by decide +kernel }

def sampleResult : AnalysisResult :=
  { experimentId := sampleConfig.experimentId
    questionId := "q1"
    questionType := "factoid"
    correctness := 1
    named := by decide
    correctness_unit := by norm_num }

/-- A generate call for the question. -/
def generateUsage (cached : Bool) (cost : ℕ) : AnalysisUsage :=
  { experimentId := sampleConfig.experimentId
    questionId := some "q1"
    questionType := "factoid"
    operation := "generate"
    modelId := "solar-pro"
    estimatedCostUsd := cost / 1000
    cached := cached
    cost_nonneg := by positivity }

def parseUsage : AnalysisUsage :=
  { experimentId := sampleConfig.experimentId
    questionId := none
    questionType := "all"
    operation := "parse"
    modelId := "document-parse"
    estimatedCostUsd := 4 / 10
    cached := false
    cost_nonneg := by norm_num }

/-- One question, the given generate calls and one parse call. -/
theorem sampleConfigs_nonempty : [sampleConfig] ≠ [] :=
  List.cons_ne_nil _ _

theorem sampleConfigs_unique :
    ([sampleConfig].map AnalysisConfig.experimentId).Nodup :=
  List.nodup_singleton _

def sampleBundle (calls : List (Bool × ℕ)) : AnalysisBundle :=
  { configs := [sampleConfig]
    results := [sampleResult]
    usage := (calls.map fun call => generateUsage call.1 call.2) ++
      [parseUsage]
    failures := []
    experiments_nonempty := sampleConfigs_nonempty
    experiments_unique := sampleConfigs_unique
    results_known := by simp [sampleResult]
    usage_known := by
      intro row member
      rcases List.mem_append.mp member with generated | last
      · obtain ⟨call, -, rfl⟩ := List.mem_map.mp generated
        exact List.mem_cons_self
      · obtain rfl := List.mem_singleton.mp last
        exact List.mem_cons_self
    results_unique := by simp
    cohort_shared := by simp
    types_fixed := by simp
    usage_bound := by
      intro row member questionId asked
      rcases List.mem_append.mp member with generated | last
      · obtain ⟨call, -, rfl⟩ := List.mem_map.mp generated
        exact ⟨sampleResult, List.mem_cons_self, rfl,
          Option.some_inj.mp asked, rfl⟩
      · obtain rfl := List.mem_singleton.mp last
        cases asked
    failures_bound := by simp }

theorem costGroups_of_sorted
    (sorted : bundle.grouped.entries.Pairwise fun left right =>
      left.1.order ≤ right.1.order) :
    costGroups bundle = bundle.grouped.entries :=
  sortBy_eq_self sorted

private theorem exists_of_isOk {ε α : Type} {result : Except ε α}
    (ok : result.isOk = true) : ∃ value, result = .ok value := by
  cases result with
  | ok value => exact ⟨value, rfl⟩
  | error _ => cases ok

theorem one_call_balances : ∃ rows reconciliation,
    buildCostRows (markedPlatform []) (sampleBundle [(false, 1)]) (11 / 10)
        none "analysis-cost-v1" = .ok (rows, reconciliation) ∧
      TablesBalance (markedPlatform []) (sampleBundle [(false, 1)]) rows := by
  have groups : costGroups (sampleBundle [(false, 1)]) = _ :=
    costGroups_of_sorted (by decide +kernel)
  have exported : (buildCostRows (markedPlatform [])
      (sampleBundle [(false, 1)]) (11 / 10) none
        "analysis-cost-v1").isOk = true := by
    rw [buildCostRows, groups]
    decide +kernel
  obtain ⟨⟨rows, reconciliation⟩, built⟩ := exists_of_isOk exported
  refine ⟨rows, reconciliation, built,
    (cost_tables_balance_iff built).mpr fun config member => ?_⟩
  obtain rfl := List.mem_singleton.mp member
  rw [IsSharedOnce, coverage, groups]
  decide +kernel

/-- A question with a new call and a cached call takes the parse total
twice. -/
theorem new_and_cached_call_unbalanced : ∃ rows reconciliation,
    buildCostRows (markedPlatform []) (sampleBundle [(false, 1), (true, 0)])
        (11 / 10) none "analysis-cost-v1" = .ok (rows, reconciliation) ∧
      ¬ TablesBalance (markedPlatform []) (sampleBundle [(false, 1), (true, 0)])
        rows := by
  have groups : costGroups (sampleBundle [(false, 1), (true, 0)]) = _ :=
    costGroups_of_sorted (by decide +kernel)
  have exported : (buildCostRows (markedPlatform [])
      (sampleBundle [(false, 1), (true, 0)]) (11 / 10) none
        "analysis-cost-v1").isOk = true := by
    rw [buildCostRows, groups]
    decide +kernel
  obtain ⟨⟨rows, reconciliation⟩, built⟩ := exists_of_isOk exported
  refine ⟨rows, reconciliation, built, fun balanced => ?_⟩
  have once := balanced.sharedOnce (buildCostRows_ok built)
    (List.mem_cons_self (a := sampleConfig))
  rw [IsSharedOnce, coverage, groups] at once
  exact absurd once (by decide +kernel)

end RagBench
