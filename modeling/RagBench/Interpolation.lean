import Mathlib.Algebra.Order.Floor.Semiring
import Mathlib.Algebra.Order.Field.Basic
import Mathlib.Order.Monotone.Basic
import Mathlib.Tactic.Linarith
import Mathlib.Tactic.Ring

/-!
# Interpolation of a sequence

The value at a position between two indices lies on the line through the
values at these indices.
-/

namespace RagBench

variable {K : Type} [Field K] [LinearOrder K] [IsStrictOrderedRing K]
  [FloorSemiring K]

/-- The value at a position. -/
def interpolate (value : ℕ → K) (position : K) : K :=
  value ⌊position⌋₊ + (position - ⌊position⌋₊) *
    (value (⌊position⌋₊ + 1) - value ⌊position⌋₊)

@[simp] theorem interpolate_natCast (value : ℕ → K) (index : ℕ) :
    interpolate value index = value index := by
  simp [interpolate]

/-- Between two indices the value lies between the values at these. -/
theorem interpolate_between {value : ℕ → K} (mono : Monotone value)
    {position : K} (nonneg : 0 ≤ position) :
    value ⌊position⌋₊ ≤ interpolate value position ∧
      interpolate value position ≤ value (⌊position⌋₊ + 1) := by
  have step : 0 ≤ value (⌊position⌋₊ + 1) - value ⌊position⌋₊ :=
    sub_nonneg.mpr (mono (Nat.le_succ _))
  have low : 0 ≤ position - ⌊position⌋₊ :=
    sub_nonneg.mpr (Nat.floor_le nonneg)
  have high : position - ⌊position⌋₊ ≤ 1 := by
    have above := (Nat.lt_floor_add_one position).le
    linarith
  unfold interpolate
  constructor
  · have share := mul_nonneg low step
    linarith
  · have share := mul_le_mul_of_nonneg_right high step
    linarith

/-- A later position has a larger value. -/
theorem interpolate_mono {value : ℕ → K} (mono : Monotone value)
    {position later : K} (nonneg : 0 ≤ position) (le : position ≤ later) :
    interpolate value position ≤ interpolate value later := by
  rcases (Nat.floor_le_floor le).eq_or_lt with same | below
  · have step : 0 ≤ value (⌊position⌋₊ + 1) - value ⌊position⌋₊ :=
      sub_nonneg.mpr (mono (Nat.le_succ _))
    have share := mul_le_mul_of_nonneg_right
      (sub_le_sub_right le (⌊position⌋₊ : K)) step
    unfold interpolate
    rw [← same]
    linarith
  · calc interpolate value position
        ≤ value (⌊position⌋₊ + 1) := (interpolate_between mono nonneg).2
      _ ≤ value ⌊later⌋₊ := mono below
      _ ≤ interpolate value later :=
          (interpolate_between mono (nonneg.trans le)).1

/-- The negated values in the reverse order. -/
theorem interpolate_reflect (value : ℕ → K) {last : ℕ} {position : K}
    (nonneg : 0 ≤ position) (le : position ≤ last) :
    interpolate (fun index => -value (last - index)) position =
      -interpolate value (last - position) := by
  obtain ⟨index, floor⟩ : ∃ index, ⌊position⌋₊ = index := ⟨_, rfl⟩
  obtain ⟨low, high⟩ := (Nat.floor_eq_iff nonneg).mp floor
  rcases low.eq_or_lt with same | above
  · have inside : index ≤ last := by
      rw [← same] at le
      exact_mod_cast le
    have mirrored : (last : K) - position = ((last - index : ℕ) : K) := by
      rw [Nat.cast_sub inside, same]
    rw [mirrored, ← same, interpolate_natCast, interpolate_natCast]
  · have inside : index < last := by
      have less := above.trans_le le
      exact_mod_cast less
    have count : ((last - index - 1 : ℕ) : K) = last - index - 1 := by
      rw [Nat.cast_sub (by omega), Nat.cast_sub inside.le, Nat.cast_one]
    have floor' : ⌊(last : K) - position⌋₊ = last - index - 1 := by
      rw [Nat.floor_eq_iff (by linarith), count]
      constructor <;> linarith
    have next : last - index - 1 + 1 = last - index := by omega
    have before : last - (index + 1) = last - index - 1 := by omega
    simp only [interpolate, floor, floor', next, before, count]
    ring

end RagBench
