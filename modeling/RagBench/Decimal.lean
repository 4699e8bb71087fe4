import Mathlib.Algebra.Order.Floor.Ring
import Mathlib.Algebra.Order.Round
import Mathlib.Data.Int.ConditionallyCompleteOrder
import Mathlib.Data.Rat.Floor
import Mathlib.Data.Int.Log
import Mathlib.Tactic.Linarith
import Mathlib.Tactic.Ring
import Mathlib.Tactic.Positivity

/-!
# Decimal arithmetic under a context

Decimals are rational numbers.  A context rounds the result of every
arithmetic operation to its precision, and bounds the coefficient a
quantization may produce.  The context with no rounding is exact arithmetic;
`Context.ofPrecision` rounds to a number of significant digits, half to even.
-/

namespace RagBench.Decimal

/-- Round to the nearest integer, ties to the even neighbour. -/
def halfEven (value : ℚ) : ℤ :=
  let below := ⌊value⌋
  let rest := value - below
  if rest < 1 / 2 then below
  else if 1 / 2 < rest then below + 1
  else if below % 2 = 0 then below
  else below + 1

inductive Rounding where
  | halfEven
  | ceiling
  deriving DecidableEq, Repr

def Rounding.toInt : Rounding → ℚ → ℤ
  | .halfEven, value => Decimal.halfEven value
  | .ceiling, value => ⌈value⌉

theorem halfEven_intCast (value : ℤ) : halfEven value = value := by
  simp [halfEven]

theorem floor_le_halfEven (value : ℚ) : ⌊value⌋ ≤ halfEven value := by
  simp only [halfEven]
  split_ifs <;> simp

theorem halfEven_le_floor_add_one (value : ℚ) :
    halfEven value ≤ ⌊value⌋ + 1 := by
  simp only [halfEven]
  split_ifs <;> simp

theorem halfEven_sub_le (value : ℚ) : (halfEven value : ℚ) - value ≤ 1 / 2 := by
  have lower := Int.floor_le value
  simp only [halfEven]
  split_ifs with small large even
  · linarith
  · push_cast
    linarith
  · linarith
  · push_cast
    linarith

theorem sub_halfEven_le (value : ℚ) : value - (halfEven value : ℚ) ≤ 1 / 2 := by
  have upper := Int.lt_floor_add_one value
  simp only [halfEven]
  split_ifs with small large even
  · linarith
  · push_cast
    linarith
  · linarith
  · push_cast
    linarith

theorem halfEven_mono : Monotone halfEven := by
  intro left right ordered
  have floors : ⌊left⌋ ≤ ⌊right⌋ := Int.floor_mono ordered
  rcases floors.lt_or_eq with less | same
  · calc
      halfEven left ≤ ⌊left⌋ + 1 := halfEven_le_floor_add_one left
      _ ≤ ⌊right⌋ := less
      _ ≤ halfEven right := floor_le_halfEven right
  · simp only [halfEven, same]
    split_ifs <;> first | omega | linarith

theorem toInt_mono (rounding : Rounding) : Monotone rounding.toInt := by
  cases rounding with
  | halfEven => exact halfEven_mono
  | ceiling => exact Int.ceil_mono

@[simp] theorem toInt_zero (rounding : Rounding) : rounding.toInt 0 = 0 := by
  cases rounding with
  | halfEven => exact halfEven_intCast 0
  | ceiling => simp [Rounding.toInt]

theorem toInt_nonneg (rounding : Rounding) {value : ℚ}
    (nonneg : 0 ≤ value) : 0 ≤ rounding.toInt value := by
  simpa using toInt_mono rounding nonneg

/-- What arithmetic does to exact results.  A quantization whose coefficient
reaches `coefficientLimit` is an invalid operation. -/
structure Context where
  fix : ℚ → ℚ
  fix_mono : Monotone fix
  fix_zero : fix 0 = 0
  coefficientLimit : ℕ

namespace Context

variable (context : Context)

theorem fix_nonneg {value : ℚ} (nonneg : 0 ≤ value) :
    0 ≤ context.fix value := by
  simpa [context.fix_zero] using context.fix_mono nonneg

/-- Exact arithmetic with bounded quantizations. -/
def exact (coefficientLimit : ℕ) : Context :=
  { fix := id
    fix_mono := monotone_id
    fix_zero := rfl
    coefficientLimit := coefficientLimit }

/-- `value.quantize(Decimal(10) ** -places, rounding)`, or `none` when the
coefficient of the result does not fit in the context. -/
def quantize (places : ℕ) (rounding : Rounding) (value : ℚ) : Option ℚ :=
  let coefficient := rounding.toInt (value * 10 ^ places)
  if coefficient.natAbs < context.coefficientLimit then
    some (coefficient / 10 ^ places)
  else none

variable {context}

theorem quantize_mono {places : ℕ} {rounding : Rounding}
    {left right low high : ℚ} (ordered : left ≤ right)
    (lowResult : context.quantize places rounding left = some low)
    (highResult : context.quantize places rounding right = some high) :
    low ≤ high := by
  simp only [quantize, Option.ite_none_right_eq_some, Option.some.injEq]
    at lowResult highResult
  rw [← lowResult.2, ← highResult.2]
  have scaled : left * 10 ^ places ≤ right * 10 ^ places :=
    mul_le_mul_of_nonneg_right ordered (by positivity)
  have rounded := toInt_mono rounding scaled
  have cast : ((rounding.toInt (left * 10 ^ places) : ℤ) : ℚ) ≤
      (rounding.toInt (right * 10 ^ places) : ℤ) := by exact_mod_cast rounded
  exact div_le_div_of_nonneg_right cast (by positivity)

theorem quantize_nonneg {places : ℕ} {rounding : Rounding}
    {value result : ℚ} (nonneg : 0 ≤ value)
    (success : context.quantize places rounding value = some result) :
    0 ≤ result := by
  simp only [quantize, Option.ite_none_right_eq_some, Option.some.injEq]
    at success
  rw [← success.2]
  have coefficient : 0 ≤ rounding.toInt (value * 10 ^ places) :=
    toInt_nonneg rounding (by positivity)
  have cast : (0 : ℚ) ≤ (rounding.toInt (value * 10 ^ places) : ℤ) := by
    exact_mod_cast coefficient
  positivity

/-- Below a value that quantizes, every non-negative value quantizes. -/
theorem quantize_isSome_of_le {places : ℕ} {rounding : Rounding}
    {left right high : ℚ} (nonneg : 0 ≤ left) (ordered : left ≤ right)
    (highResult : context.quantize places rounding right = some high) :
    ∃ low, context.quantize places rounding left = some low := by
  simp only [quantize, Option.ite_none_right_eq_some, Option.some.injEq]
    at highResult
  have scaled : left * 10 ^ places ≤ right * 10 ^ places :=
    mul_le_mul_of_nonneg_right ordered (by positivity)
  have rounded := toInt_mono rounding scaled
  have coefficient : 0 ≤ rounding.toInt (left * 10 ^ places) :=
    toInt_nonneg rounding (by positivity)
  have fits : (rounding.toInt (left * 10 ^ places)).natAbs <
      context.coefficientLimit := by omega
  exact ⟨_, if_pos fits⟩

/-- Round a non-negative value to its leading digits. -/
def magnitude (digits : ℕ) (value : ℚ) : ℚ :=
  let unit : ℚ := 10 ^ (Int.log 10 value + 1 - digits)
  halfEven (value / unit) * unit

private theorem magnitude_zero (digits : ℕ) : magnitude digits 0 = 0 := by
  simp [magnitude, halfEven]

private theorem magnitude_nonneg {digits : ℕ} {value : ℚ}
    (nonneg : 0 ≤ value) : 0 ≤ magnitude digits value := by
  have unit : (0 : ℚ) < 10 ^ (Int.log 10 value + 1 - digits) :=
    zpow_pos (by norm_num) _
  have rounded : 0 ≤ halfEven (value / 10 ^ (Int.log 10 value + 1 - digits)) :=
    toInt_nonneg .halfEven (div_nonneg nonneg unit.le)
  have cast : (0 : ℚ) ≤
      halfEven (value / 10 ^ (Int.log 10 value + 1 - digits)) := by
    exact_mod_cast rounded
  exact mul_nonneg cast unit.le

/-- Rounding never leaves the decade of the value: the result is at least the
decade's least and at most the next decade's least value. -/
private theorem magnitude_decade {digits : ℕ} (some : 0 < digits)
    {value : ℚ} (positive : 0 < value) :
    (10 : ℚ) ^ Int.log 10 value ≤ magnitude digits value ∧
      magnitude digits value ≤ 10 ^ (Int.log 10 value + 1) := by
  have lower : ((10 : ℕ) : ℚ) ^ Int.log 10 value ≤ value :=
    Int.zpow_log_le_self (by norm_num) positive
  have upper : value < ((10 : ℕ) : ℚ) ^ (Int.log 10 value + 1) :=
    Int.lt_zpow_succ_log_self (by norm_num) value
  push_cast at lower upper
  simp only [magnitude]
  generalize Int.log 10 value = exponent at lower upper ⊢
  have unit : (0 : ℚ) < 10 ^ (exponent + 1 - digits) :=
    zpow_pos (by norm_num) _
  have least : (10 : ℚ) ^ exponent =
      ((10 ^ (digits - 1) : ℤ) : ℚ) * 10 ^ (exponent + 1 - digits) := by
    push_cast
    rw [← zpow_natCast, ← zpow_add₀ (by norm_num)]
    congr 1
    omega
  have greatest : (10 : ℚ) ^ (exponent + 1) =
      ((10 ^ digits : ℤ) : ℚ) * 10 ^ (exponent + 1 - digits) := by
    push_cast
    rw [← zpow_natCast, ← zpow_add₀ (by norm_num)]
    congr 1
    omega
  constructor
  · have scaled : ((10 ^ (digits - 1) : ℤ) : ℚ) ≤
        value / 10 ^ (exponent + 1 - digits) := by
      rw [le_div_iff₀ unit, ← least]
      exact lower
    have rounded := halfEven_mono scaled
    rw [halfEven_intCast] at rounded
    rw [least]
    exact mul_le_mul_of_nonneg_right (by exact_mod_cast rounded) unit.le
  · have scaled : value / 10 ^ (exponent + 1 - digits) ≤
        ((10 ^ digits : ℤ) : ℚ) := by
      rw [div_le_iff₀ unit, ← greatest]
      exact upper.le
    have rounded := halfEven_mono scaled
    rw [halfEven_intCast] at rounded
    rw [greatest]
    exact mul_le_mul_of_nonneg_right (by exact_mod_cast rounded) unit.le

private theorem magnitude_mono {digits : ℕ} (some : 0 < digits)
    {left right : ℚ} (nonneg : 0 ≤ left) (ordered : left ≤ right) :
    magnitude digits left ≤ magnitude digits right := by
  rcases nonneg.eq_or_lt with rfl | positive
  · rw [magnitude_zero]
    exact magnitude_nonneg ordered
  · have positiveRight : 0 < right := positive.trans_le ordered
    have exponents : Int.log 10 left ≤ Int.log 10 right :=
      Int.log_mono_right positive ordered
    rcases exponents.lt_or_eq with less | same
    · calc
        magnitude digits left ≤ 10 ^ (Int.log 10 left + 1) :=
          (magnitude_decade some positive).2
        _ ≤ 10 ^ Int.log 10 right :=
          zpow_le_zpow_right₀ (by norm_num) less
        _ ≤ magnitude digits right :=
          (magnitude_decade some positiveRight).1
    · have unit : (0 : ℚ) < 10 ^ (Int.log 10 right + 1 - digits) :=
        zpow_pos (by norm_num) _
      have rounded := halfEven_mono
        (div_le_div_of_nonneg_right ordered unit.le)
      simp only [magnitude, same]
      exact mul_le_mul_of_nonneg_right (by exact_mod_cast rounded) unit.le

/-- Round to significant digits; the sign is kept apart. -/
def significant (digits : ℕ) (value : ℚ) : ℚ :=
  if value < 0 then -magnitude digits (-value) else magnitude digits value

private theorem significant_mono {digits : ℕ} (some : 0 < digits) :
    Monotone (significant digits) := by
  intro left right ordered
  unfold significant
  split_ifs with leftNegative rightNegative rightNegative
  · exact neg_le_neg (magnitude_mono some (by linarith) (by linarith))
  · have first : 0 ≤ magnitude digits (-left) :=
      magnitude_nonneg (by linarith)
    have second : 0 ≤ magnitude digits right :=
      magnitude_nonneg (by linarith)
    linarith
  · linarith
  · exact magnitude_mono some (by linarith) ordered

/-- A context of `digits` significant digits that rounds half to even and
bounds the coefficient of a quantization by the same number of digits. -/
def ofPrecision (digits : ℕ) (some : 0 < digits) : Context :=
  { fix := significant digits
    fix_mono := significant_mono some
    fix_zero := by simp [significant, magnitude_zero]
    coefficientLimit := 10 ^ digits }

end Context

end RagBench.Decimal
