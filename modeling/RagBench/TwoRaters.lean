import Mathlib.Algebra.BigOperators.Field
import Mathlib.Algebra.Order.BigOperators.Group.Finset
import Mathlib.Algebra.Order.Field.Basic
import Mathlib.Algebra.Order.Field.Rat
import Mathlib.Data.Fintype.BigOperators
import Mathlib.Tactic.FieldSimp
import Mathlib.Tactic.Linarith
import Mathlib.Tactic.Ring

/-!
# Agreement of two raters

Two raters sort the same items into the same categories.  Kappa compares the
share of the items on which they agree with the share expected of independent
raters who use the categories as often.
-/

namespace RagBench

namespace TwoRaters

variable {δ : Type} [DecidableEq δ] (pairs : List (δ × δ))

/-- The items in the same category. -/
def agreed : ℕ :=
  pairs.countP fun pair => pair.1 = pair.2

/-- How often the first rater uses a category. -/
def leftCount (category : δ) : ℕ :=
  pairs.countP fun pair => pair.1 = category

/-- How often the second rater uses a category. -/
def rightCount (category : δ) : ℕ :=
  pairs.countP fun pair => pair.2 = category

theorem agreed_le : agreed pairs ≤ pairs.length :=
  List.countP_le_length

theorem agreed_eq_length_iff :
    agreed pairs = pairs.length ↔ ∀ pair ∈ pairs, pair.1 = pair.2 := by
  simp [agreed, List.countP_eq_length]

/-- Only items on which the raters agree count twice. -/
theorem counts_le (category : δ) :
    leftCount pairs category + rightCount pairs category ≤
      pairs.length + agreed pairs := by
  induction pairs with
  | nil => exact le_refl _
  | cons pair pairs induction =>
      simp only [leftCount, rightCount, agreed, List.countP_cons,
        decide_eq_true_eq, List.length_cons] at induction ⊢
      by_cases left : pair.1 = category
      · by_cases right : pair.2 = category
        · rw [if_pos left, if_pos right, if_pos (left.trans right.symm)]
          omega
        · rw [if_pos left, if_neg right]
          omega
      · rw [if_neg left]
        split_ifs <;> omega

variable [Fintype δ]

/-- Every item is in one category. -/
theorem sum_countP {α : Type} (read : α → δ) (items : List α) :
    ∑ category, items.countP (fun item => read item = category) =
      items.length := by
  induction items with
  | nil => simp
  | cons item items induction =>
      simp only [List.countP_cons, decide_eq_true_eq, Finset.sum_add_distrib,
        Finset.sum_ite_eq, Finset.mem_univ, if_true, List.length_cons,
        induction]

theorem sum_leftCount :
    ∑ category, leftCount pairs category = pairs.length :=
  sum_countP Prod.fst pairs

theorem sum_rightCount :
    ∑ category, rightCount pairs category = pairs.length :=
  sum_countP Prod.snd pairs

/-- The pairs of items that are in the same category for different raters. -/
def chance : ℕ :=
  ∑ category, leftCount pairs category * rightCount pairs category

/-- Agreement by chance is at most half of one more than the agreement. -/
theorem two_mul_chance_le :
    2 * chance pairs ≤ pairs.length * (pairs.length + agreed pairs) := by
  have each (category : δ) :
      4 * (leftCount pairs category * rightCount pairs category) ≤
        (leftCount pairs category + rightCount pairs category) *
          (pairs.length + agreed pairs) := by
    have square : 4 * (leftCount pairs category * rightCount pairs category) ≤
        (leftCount pairs category + rightCount pairs category) *
          (leftCount pairs category + rightCount pairs category) := by
      zify
      nlinarith only [sq_nonneg
        ((leftCount pairs category : ℤ) - rightCount pairs category)]
    exact square.trans (Nat.mul_le_mul_left _ (counts_le pairs category))
  have total := Finset.sum_le_sum fun category (_ : category ∈ Finset.univ) =>
    each category
  rw [← Finset.mul_sum, ← Finset.sum_mul, Finset.sum_add_distrib,
    sum_leftCount, sum_rightCount] at total
  change 4 * chance pairs ≤ _ at total
  have twice : (pairs.length + pairs.length) *
      (pairs.length + agreed pairs) =
      2 * (pairs.length * (pairs.length + agreed pairs)) := by ring
  omega

/-! ## Shares -/

omit [Fintype δ] in
/-- The share of the items on which the raters agree. -/
def observed : ℚ :=
  agreed pairs / pairs.length

/-- The share on which independent raters agree. -/
def expected : ℚ :=
  ∑ category, (leftCount pairs category : ℚ) / pairs.length *
    rightCount pairs category / pairs.length

theorem expected_eq :
    expected pairs =
      chance pairs / ((pairs.length : ℚ) * pairs.length) := by
  rw [expected, chance, Nat.cast_sum, Finset.sum_div]
  refine Finset.sum_congr rfl fun category _ => ?_
  rw [Nat.cast_mul, div_mul_eq_mul_div, div_div]

section Some

variable {pairs} (some : pairs ≠ [])

include some

omit [Fintype δ] in
theorem observed_bounds : 0 ≤ observed pairs ∧ observed pairs ≤ 1 := by
  have positive : (0 : ℚ) < pairs.length := by
    exact_mod_cast List.length_pos_iff.mpr some
  constructor
  · exact div_nonneg (Nat.cast_nonneg _) positive.le
  · rw [observed, div_le_one positive]
    exact_mod_cast agreed_le pairs

omit [Fintype δ] in
theorem observed_eq_one_iff :
    observed pairs = 1 ↔ ∀ pair ∈ pairs, pair.1 = pair.2 := by
  have positive : (pairs.length : ℚ) ≠ 0 := by
    exact_mod_cast (List.length_pos_iff.mpr some).ne'
  rw [observed, div_eq_one_iff_eq positive, Nat.cast_inj,
    agreed_eq_length_iff]

theorem two_mul_expected_le :
    2 * expected pairs ≤ 1 + observed pairs := by
  have positive : (0 : ℚ) < pairs.length := by
    exact_mod_cast List.length_pos_iff.mpr some
  have counts : 2 * (chance pairs : ℚ) ≤
      pairs.length * (pairs.length + agreed pairs) := by
    exact_mod_cast two_mul_chance_le pairs
  rw [expected_eq, observed, ← mul_div_assoc,
    div_le_iff₀ (mul_pos positive positive)]
  calc 2 * (chance pairs : ℚ)
      ≤ pairs.length * (pairs.length + agreed pairs) := counts
    _ = (1 + agreed pairs / pairs.length) *
        ((pairs.length : ℚ) * pairs.length) := by
      field_simp

end Some

/-! ## Kappa -/

/-- Cohen's kappa of an observed and an expected agreement. -/
def kappaOf (observed expected : ℚ) : ℚ :=
  if expected = 1 ∧ observed = 1 then 1
  else (observed - expected) / (1 - expected)

section Kappa

variable {observed expected : ℚ} (most : observed ≤ 1)
  (half : 2 * expected ≤ 1 + observed)

include most half

/-- Raters who agree by chance alone use a single category. -/
theorem observed_of_expected (certain : expected = 1) : observed = 1 := by
  linarith

theorem kappaOf_bounds :
    -1 ≤ kappaOf observed expected ∧ kappaOf observed expected ≤ 1 := by
  rw [kappaOf]
  by_cases certain : expected = 1
  · rw [if_pos ⟨certain, observed_of_expected most half certain⟩]
    exact ⟨by norm_num, le_refl _⟩
  · have positive : 0 < 1 - expected := by
      have below : expected ≤ 1 := by linarith
      have less := lt_of_le_of_ne below certain
      linarith
    rw [if_neg fun both => certain both.1]
    constructor
    · rw [le_div_iff₀ positive]
      linarith
    · rw [div_le_one positive]
      linarith

theorem kappaOf_eq_one_iff : kappaOf observed expected = 1 ↔ observed = 1 := by
  rw [kappaOf]
  by_cases certain : expected = 1
  · have same := observed_of_expected most half certain
    rw [if_pos ⟨certain, same⟩]
    exact iff_of_true rfl same
  · have nonzero : 1 - expected ≠ 0 := sub_ne_zero.mpr (Ne.symm certain)
    rw [if_neg fun both => certain both.1, div_eq_one_iff_eq nonzero]
    exact ⟨fun same => by linarith, fun same => by rw [same]⟩

end Kappa

end TwoRaters

end RagBench
