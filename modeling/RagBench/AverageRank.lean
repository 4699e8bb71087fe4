import Mathlib.Algebra.BigOperators.Group.List.Lemmas
import Mathlib.Algebra.Order.Field.Rat
import Mathlib.Data.List.Count
import Mathlib.Tactic.Linarith
import Mathlib.Tactic.Ring

/-!
# Average ranks

Values are ranked from below, and equal values share the average of the ranks
that they would have one after another.
-/

namespace RagBench

section Ranks

variable {α : Type} [LinearOrder α]

/-- The number of values below a value. -/
def countBelow (values : List α) (value : α) : ℕ :=
  values.countP fun other => other < value

/-- The values below, half of the equal ones, and one half. -/
def averageRank (values : List α) (value : α) : ℚ :=
  countBelow values value + values.count value / 2 + 1 / 2

variable {values others : List α}

theorem averageRank_perm (permuted : values.Perm others) :
    averageRank values = averageRank others := by
  funext value
  rw [averageRank, averageRank, countBelow, permuted.countP_eq,
    permuted.count_eq, countBelow]

theorem countBelow_add_count_le {value larger : α} (less : value < larger) :
    countBelow values value + values.count value ≤
      countBelow values larger := by
  unfold countBelow
  induction values with
  | nil => exact le_rfl
  | cons other values induction =>
      rw [List.countP_cons, List.countP_cons, List.count_cons]
      rcases lt_trichotomy other value with below | rfl | above
      · simp only [below, below.trans less, decide_true, if_true, beq_iff_eq,
          below.ne, if_false]
        omega
      · simp only [lt_irrefl, less, decide_true, decide_false, if_true,
          beq_self_eq_true, Bool.false_eq_true, if_false]
        omega
      · simp only [not_lt_of_gt above, decide_false, Bool.false_eq_true,
          if_false, beq_iff_eq, above.ne']
        omega

/-- A larger value has a larger rank. -/
theorem averageRank_lt {value larger : α} (member : value ∈ values)
    (less : value < larger) :
    averageRank values value < averageRank values larger := by
  have below : ((countBelow values value + values.count value : ℕ) : ℚ) ≤
      countBelow values larger := by
    exact_mod_cast countBelow_add_count_le less
  have present : (1 : ℚ) ≤ values.count value := by
    exact_mod_cast List.count_pos_iff.mpr member
  have nonnegative : (0 : ℚ) ≤ values.count larger := Nat.cast_nonneg _
  push_cast at below
  unfold averageRank
  linarith

/-! ## The sum -/

/-- How often a value of the first list is above one of the second. -/
def crossings (values others : List α) : ℕ :=
  (values.map (countBelow others)).sum

theorem crossings_cons_right (values : List α) (other : α)
    (others : List α) :
    crossings values (other :: others) =
      (values.countP fun value => other < value) + crossings values others := by
  unfold crossings
  induction values with
  | nil => rfl
  | cons value values induction =>
      rw [List.map_cons, List.sum_cons, induction, List.countP_cons,
        List.map_cons, List.sum_cons, countBelow, List.countP_cons,
        ← countBelow]
      omega

theorem countBelow_add_countAbove (values : List α) (value : α) :
    countBelow values value + (values.countP fun other => value < other) +
      values.count value = values.length := by
  unfold countBelow
  induction values with
  | nil => rfl
  | cons other values induction =>
      rw [List.countP_cons, List.countP_cons, List.count_cons,
        List.length_cons]
      rcases lt_trichotomy other value with below | rfl | above
      · simp only [below, decide_true, if_true, not_lt_of_gt below,
          decide_false, Bool.false_eq_true, if_false, beq_iff_eq, below.ne]
        omega
      · simp only [lt_irrefl, decide_false, Bool.false_eq_true, if_false,
          beq_self_eq_true, if_true]
        omega
      · simp only [above, decide_true, if_true, not_lt_of_gt above,
          decide_false, Bool.false_eq_true, if_false, beq_iff_eq, above.ne']
        omega

theorem crossings_nil_right (values : List α) : crossings values [] = 0 := by
  unfold crossings
  induction values with
  | nil => rfl
  | cons value values induction =>
      rw [List.map_cons, List.sum_cons, induction]
      rfl

/-- Two values are in one order, in the other, or equal. -/
theorem crossings_add (values others : List α) :
    crossings values others + crossings others values +
        (values.map fun value => others.count value).sum =
      values.length * others.length := by
  induction values with
  | nil =>
      rw [crossings_nil_right, List.length_nil, Nat.zero_mul]
      rfl
  | cons value values induction =>
      have split : crossings (value :: values) others =
          countBelow others value + crossings values others := rfl
      have parts := countBelow_add_countAbove others value
      rw [split, crossings_cons_right, List.map_cons, List.sum_cons,
        List.length_cons, Nat.succ_mul, ← induction]
      omega

theorem sum_averageRank (values : List α) :
    (values.map (averageRank values)).sum =
      values.length * (values.length + 1) / 2 := by
  have total (part : List α) :
      (part.map (averageRank values)).sum =
        ((part.map (countBelow values)).sum : ℕ) +
          ((part.map fun value => values.count value).sum : ℕ) / 2 +
          part.length / 2 := by
    induction part with
    | nil => simp
    | cons value part induction =>
        rw [List.map_cons, List.sum_cons, induction, averageRank]
        simp only [List.map_cons, List.sum_cons, List.length_cons]
        push_cast
        ring
  have counted := crossings_add values values
  have cast : (2 * crossings values values +
      (values.map fun value => values.count value).sum : ℚ) =
        values.length * values.length := by
    have doubled : 2 * crossings values values +
        (values.map fun value => values.count value).sum =
          values.length * values.length := by
      omega
    exact_mod_cast doubled
  rw [total values, ← crossings]
  linarith

/-! ## Ties in a sorted list -/

/-- The positions from `start` up to `stop` have one value, smaller values come
before and larger ones after. -/
structure IsTie (items : List α) (value : α) (start stop : ℕ) : Prop where
  before : ∀ item ∈ items.take start, item < value
  tied : ∀ item ∈ (items.take stop).drop start, item = value
  after : ∀ item ∈ items.drop stop, value < item
  inside : start ≤ stop ∧ stop ≤ items.length

theorem IsTie.averageRank {items : List α} {value : α} {start stop : ℕ}
    (tie : IsTie items value start stop) :
    averageRank items value = (start + 1 + stop) / 2 := by
  obtain ⟨first, last⟩ := tie.inside
  have parts : items = items.take start ++
      ((items.take stop).drop start ++ items.drop stop) := by
    rw [← List.append_assoc]
    conv_lhs => rw [← List.take_append_drop stop items]
    congr 1
    conv_lhs => rw [← List.take_append_drop start (items.take stop)]
    rw [List.take_take, Nat.min_eq_left first]
  have below : countBelow items value = start := by
    unfold countBelow
    rw [parts, List.countP_append, List.countP_append,
      List.countP_eq_length.mpr fun item member =>
        decide_eq_true (tie.before item member),
      List.countP_eq_zero.mpr fun item member => by
        simp [tie.tied item member],
      List.countP_eq_zero.mpr fun item member => by
        simpa using (tie.after item member).le,
      List.length_take]
    omega
  have equal : items.count value = stop - start := by
    rw [parts, List.count_append, List.count_append,
      List.count_eq_zero.mpr fun member =>
        lt_irrefl _ (tie.before value member),
      List.count_eq_length.mpr fun item member =>
        (tie.tied item member).symm,
      List.count_eq_zero.mpr fun member =>
        lt_irrefl _ (tie.after value member),
      List.length_drop, List.length_take]
    omega
  rw [RagBench.averageRank, below, equal, Nat.cast_sub first]
  ring

end Ranks

end RagBench
