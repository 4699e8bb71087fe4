import RagBench.Decimal
import Mathlib.Algebra.Order.Field.Basic
import Mathlib.Tactic.LinearCombination
import Mathlib.Tactic.FieldSimp

/-!
# Relative errors of decimal arithmetic

Each operation of a context moves its result by a bounded fraction.  After
several operations the fractions multiply.
-/

namespace RagBench.Decimal

theorem halfEven_mul_error {unit : ℚ} (positive : 0 < unit) (value : ℚ) :
    |halfEven (value / unit) * unit - value| ≤ unit / 2 := by
  have above := halfEven_sub_le (value / unit)
  have below := sub_halfEven_le (value / unit)
  have whole : value / unit * unit = value := div_mul_cancel₀ _ positive.ne'
  rw [abs_le]
  constructor <;> nlinarith

/-- Every result moves by at most the fraction `delta` of its value. -/
def Context.Within (context : Context) (delta : ℚ) : Prop :=
  ∀ value, 0 ≤ value → |context.fix value - value| ≤ delta * value

/-- Rounding to `digits` digits moves a value by half a unit of its last
digit. -/
theorem Context.ofPrecision_within (digits : ℕ) (some : 0 < digits) :
    (Context.ofPrecision digits some).Within
      (1 / 2 * 10 ^ (1 - digits : ℤ)) := by
  intro value nonneg
  change |significant digits value - value| ≤ _
  rw [significant, if_neg (not_lt.mpr nonneg)]
  rcases nonneg.eq_or_lt with rfl | positive
  · simp [magnitude, halfEven]
  · have unit : (0 : ℚ) < 10 ^ (Int.log 10 value + 1 - digits) :=
      zpow_pos (by norm_num) _
    have lower : ((10 : ℕ) : ℚ) ^ Int.log 10 value ≤ value :=
      Int.zpow_log_le_self (by norm_num) positive
    push_cast at lower
    have split : (10 : ℚ) ^ (Int.log 10 value + 1 - digits) =
        10 ^ Int.log 10 value * 10 ^ (1 - digits : ℤ) := by
      rw [← zpow_add₀ (by norm_num)]
      congr 1
      ring
    have small : (10 : ℚ) ^ (Int.log 10 value + 1 - digits) ≤
        10 ^ (1 - digits : ℤ) * value := by
      rw [split, mul_comm]
      exact mul_le_mul_of_nonneg_left lower (zpow_pos (by norm_num) _).le
    have error := halfEven_mul_error unit value
    rw [magnitude]
    linarith

/-- The computed value is off by what `steps` operations can move it. -/
structure Near (delta : ℚ) (steps : ℕ) (computed exact : ℚ) : Prop where
  nonneg : 0 ≤ exact
  computed_nonneg : 0 ≤ computed
  error : |computed - exact| ≤ ((1 + delta) ^ steps - 1) * exact

namespace Near

variable {delta computed exact : ℚ} {steps : ℕ} {context : Context}

theorem refl (delta : ℚ) {value : ℚ} (nonneg : 0 ≤ value) :
    Near delta 0 value value :=
  ⟨nonneg, nonneg, by simp⟩

theorem add (near : Near delta steps computed exact) (small : 0 ≤ delta)
    {value : ℚ} (nonneg : 0 ≤ value) :
    Near delta steps (computed + value) (exact + value) := by
  have factor : (0 : ℚ) ≤ (1 + delta) ^ steps - 1 := by
    have := one_le_pow₀ (by linarith : (1 : ℚ) ≤ 1 + delta) (n := steps)
    linarith
  refine ⟨add_nonneg near.nonneg nonneg,
    add_nonneg near.computed_nonneg nonneg, ?_⟩
  rw [add_sub_add_right_eq_sub, mul_add]
  have extra := mul_nonneg factor nonneg
  linarith [near.error]

theorem mul (near : Near delta steps computed exact) {factor : ℚ}
    (nonneg : 0 ≤ factor) :
    Near delta steps (computed * factor) (exact * factor) := by
  refine ⟨mul_nonneg near.nonneg nonneg,
    mul_nonneg near.computed_nonneg nonneg, ?_⟩
  rw [← sub_mul, abs_mul, abs_of_nonneg nonneg, ← mul_assoc]
  exact mul_le_mul_of_nonneg_right near.error nonneg

theorem div (near : Near delta steps computed exact) {divisor : ℚ}
    (nonneg : 0 ≤ divisor) :
    Near delta steps (computed / divisor) (exact / divisor) := by
  rw [div_eq_mul_inv, div_eq_mul_inv]
  exact near.mul (inv_nonneg.mpr nonneg)

theorem mono (near : Near delta steps computed exact) (small : 0 ≤ delta)
    {more : ℕ} (more_steps : steps ≤ more) :
    Near delta more computed exact := by
  refine ⟨near.nonneg, near.computed_nonneg, near.error.trans ?_⟩
  have powers : (1 + delta) ^ steps ≤ (1 + delta) ^ more :=
    pow_le_pow_right₀ (by linarith) more_steps
  exact mul_le_mul_of_nonneg_right (by linarith) near.nonneg

/-- One more operation. -/
theorem fix (near : Near delta steps computed exact)
    (within : context.Within delta) (small : 0 ≤ delta) :
    Near delta (steps + 1) (context.fix computed) exact := by
  refine ⟨near.nonneg, context.fix_nonneg near.computed_nonneg, ?_⟩
  have moved := within computed near.computed_nonneg
  have bound := (abs_le.mp near.error).2
  have scaled : delta * computed ≤ delta * ((1 + delta) ^ steps * exact) :=
    mul_le_mul_of_nonneg_left (by linarith) small
  calc
    |context.fix computed - exact| ≤
        |context.fix computed - computed| + |computed - exact| :=
      abs_sub_le _ _ _
    _ ≤ delta * computed + ((1 + delta) ^ steps - 1) * exact :=
      add_le_add moved near.error
    _ ≤ ((1 + delta) ^ (steps + 1) - 1) * exact := by
      rw [pow_succ]
      linarith

end Near

end RagBench.Decimal
