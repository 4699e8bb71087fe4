import Mathlib.Algebra.BigOperators.Group.List.Basic
import Mathlib.Algebra.Order.Field.Basic
import Mathlib.Algebra.Order.Field.Rat
import Mathlib.Data.Nat.Cast.Order.Ring

/-!
# Means of parts

A mean over no items is undefined.  The mean of a whole is the mean of the
means of its parts, each weighted by its number of items.
-/

namespace RagBench

/-- The mean of some items with a total. -/
def average (total : ℚ) (count : ℕ) : Option ℚ :=
  if count = 0 then none else some (total / count)

/-- A value in the unit interval, where there is one. -/
def InUnit (value : Option ℚ) : Prop :=
  ∀ number ∈ value, 0 ≤ number ∧ number ≤ 1

/-- The parts without a weight are those without a value, and the whole is the
mean of the others. -/
structure IsWeightedMean (whole : Option ℚ) (parts : List (ℕ × Option ℚ)) :
    Prop where
  undefined : ∀ part ∈ parts, part.2 = none ↔ part.1 = 0
  combined : whole = average
    (parts.map fun part => (part.1 : ℚ) * part.2.getD 0).sum
    (parts.map Prod.fst).sum

theorem average_eq_none_iff {total : ℚ} {count : ℕ} :
    average total count = none ↔ count = 0 := by
  simp [average]

theorem average_inUnit {total : ℚ} {count : ℕ} (low : 0 ≤ total)
    (high : total ≤ count) : InUnit (average total count) := by
  intro number member
  by_cases empty : count = 0
  · simp [average, empty] at member
  · obtain rfl : total / count = number := by
      simpa [average, empty] using member
    have positive : (0 : ℚ) < count := by
      exact_mod_cast Nat.pos_of_ne_zero empty
    refine ⟨div_nonneg low positive.le, ?_⟩
    rw [div_le_one positive]
    exact high

theorem sum_inUnit {values : List (Option ℚ)}
    (unit : ∀ value ∈ values, InUnit value) :
    0 ≤ (values.map (·.getD 0)).sum ∧
      (values.map (·.getD 0)).sum ≤ values.length := by
  induction values with
  | nil => simp
  | cons value values induction =>
      obtain ⟨here, later⟩ := List.forall_mem_cons.mp unit
      obtain ⟨low, high⟩ := induction later
      have bounds : 0 ≤ value.getD 0 ∧ value.getD 0 ≤ 1 := by
        cases value with
        | none => simp
        | some number => exact here number rfl
      rw [List.map_cons, List.sum_cons, List.length_cons, Nat.cast_succ]
      constructor
      · exact add_nonneg bounds.1 low
      · rw [add_comm]
        exact add_le_add high bounds.2

/-- A larger total over as many items. -/
theorem average_mono {low high : ℚ} (le : low ≤ high) (count : ℕ) :
    Option.Rel (· ≤ ·) (average low count) (average high count) := by
  by_cases empty : count = 0
  · simp only [average, empty, if_true]
    exact .none
  · simp only [average, empty, if_false]
    exact .some (div_le_div_of_nonneg_right le (Nat.cast_nonneg count))

theorem getD_mono {low high : Option ℚ} (le : Option.Rel (· ≤ ·) low high) :
    low.getD 0 ≤ high.getD 0 := by
  cases le with
  | some le => exact le
  | none => exact le_refl _

/-- The count times the mean is the total. -/
theorem count_mul_average {total : ℚ} {count : ℕ}
    (none : count = 0 → total = 0) :
    count * (average total count).getD 0 = total := by
  by_cases empty : count = 0
  · simp [average, empty, none empty]
  · have nonzero : (count : ℚ) ≠ 0 := by exact_mod_cast empty
    simp only [average, empty, if_false, Option.getD_some]
    exact mul_div_cancel₀ total nonzero

/-- The totals and counts of the parts add up to those of the whole. -/
theorem isWeightedMean_average {α : Type} (parts : List α) (total : α → ℚ)
    (count : α → ℕ) (none : ∀ part ∈ parts, count part = 0 → total part = 0) :
    IsWeightedMean
      (average (parts.map total).sum (parts.map count).sum)
      (parts.map fun part =>
        (count part, average (total part) (count part))) := by
  constructor
  · intro pair member
    obtain ⟨part, -, rfl⟩ := List.mem_map.mp member
    exact average_eq_none_iff
  · rw [List.map_map, List.map_map]
    refine congrArg₂ average ?_ rfl
    refine congrArg List.sum (List.map_congr_left fun part member => ?_)
    exact (count_mul_average (none part member)).symm

end RagBench
