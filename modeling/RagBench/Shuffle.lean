import Mathlib.Algebra.Order.Group.Nat
import Mathlib.Data.List.Basic
import Mathlib.Data.List.Perm.Basic

/-!
# Seeded shuffling

A generator draws numbers below a bound.  A shuffle exchanges every item, from
the last one on, with one that is not behind it.  It depends on the number of
items and on what is drawn, and never on the items.
-/

namespace RagBench

/-- `random.Random`: a state for each seed, from which numbers are drawn. -/
structure RandomSource (ρ : Type) where
  seeded : ℤ → ρ
  below : ρ → ℕ → ℕ × ρ
  below_lt : ∀ state bound, 0 < bound → (below state bound).1 < bound

namespace RandomSource

variable {ρ α β : Type} (random : RandomSource ρ)

/-- `items[i], items[j] = items[j], items[i]`. -/
def swapAt (items : List α) (i j : ℕ) : List α :=
  match items[i]?, items[j]? with
  | some left, some right => (items.set i right).set j left
  | _, _ => items

/-- `for i in reversed(range(1, last + 1))`. -/
def shuffleFrom : ℕ → ρ → List α → List α × ρ
  | 0, state, items => (items, state)
  | i + 1, state, items =>
      let draw := random.below state (i + 2)
      shuffleFrom i draw.2 (swapAt items (i + 1) draw.1)

/-- `random.shuffle(items)`. -/
def shuffle (state : ρ) (items : List α) : List α × ρ :=
  random.shuffleFrom (items.length - 1) state items

theorem swapAt_perm (items : List α) (i j : ℕ) :
    (swapAt items i j).Perm items := by
  rw [swapAt]
  split
  · rename_i left right first second
    obtain ⟨inside, rfl⟩ := List.getElem?_eq_some_iff.mp first
    obtain ⟨inside', rfl⟩ := List.getElem?_eq_some_iff.mp second
    exact List.set_set_perm inside inside'
  · exact .refl _

theorem swapAt_map (read : α → β) (items : List α) (i j : ℕ) :
    swapAt (items.map read) i j = (swapAt items i j).map read := by
  rw [swapAt, swapAt, List.getElem?_map, List.getElem?_map]
  cases items[i]? with
  | none => rfl
  | some left =>
      cases items[j]? with
      | none => rfl
      | some right =>
          simp only [Option.map_some, List.map_set]

theorem shuffleFrom_perm (last : ℕ) (state : ρ) (items : List α) :
    (random.shuffleFrom last state items).1.Perm items := by
  induction last generalizing state items with
  | zero => exact .refl _
  | succ i induction => exact (induction _ _).trans (swapAt_perm items _ _)

theorem shuffle_perm (state : ρ) (items : List α) :
    (random.shuffle state items).1.Perm items :=
  random.shuffleFrom_perm _ state items

theorem shuffleFrom_map (read : α → β) (last : ℕ) (state : ρ)
    (items : List α) :
    random.shuffleFrom last state (items.map read) =
      ((random.shuffleFrom last state items).1.map read,
        (random.shuffleFrom last state items).2) := by
  induction last generalizing state items with
  | zero => rfl
  | succ i induction =>
      rw [shuffleFrom, shuffleFrom, swapAt_map]
      exact induction _ _

/-- What is read of the items does not change what is drawn. -/
theorem shuffle_map (read : α → β) (state : ρ) (items : List α) :
    random.shuffle state (items.map read) =
      ((random.shuffle state items).1.map read,
        (random.shuffle state items).2) := by
  rw [shuffle, List.length_map]
  exact random.shuffleFrom_map read _ state items

/-! ## Any order can be drawn -/

/-- A generator that draws the numbers of a list. -/
def scripted (script : List ℕ) : RandomSource (List ℕ) where
  seeded _ := script
  below
    | [], _ => (0, [])
    | draw :: rest, bound => (draw % bound, rest)
  below_lt state bound positive := by
    cases state with
    | nil => exact positive
    | cons draw rest => exact Nat.mod_lt draw positive

theorem length_swapAt (items : List α) (i j : ℕ) :
    (swapAt items i j).length = items.length :=
  (swapAt_perm items i j).length_eq

/-- After an exchange the last of the open places has its item. -/
theorem drop_swapAt {items target : List α} {i j : ℕ}
    (inside : i < items.length) (before : j < i + 1)
    (length : target.length = items.length)
    (same : items.drop (i + 1) = target.drop (i + 1))
    (found : items[j]? = target[i]?) :
    (swapAt items i j).drop i = target.drop i := by
  have inside' : j < items.length := by omega
  have insideTarget : i < target.length := length ▸ inside
  have swapped : swapAt items i j =
      (items.set i items[j]).set j items[i] := by
    rw [swapAt, List.getElem?_eq_getElem inside,
      List.getElem?_eq_getElem inside']
  have later : (swapAt items i j).drop (i + 1) = target.drop (i + 1) := by
    rw [swapped, List.drop_set_of_lt before,
      List.drop_set_of_lt (Nat.lt_succ_self i), same]
  have here : i < (swapAt items i j).length := by rwa [length_swapAt]
  rw [List.drop_eq_getElem_cons here, List.drop_eq_getElem_cons insideTarget,
    later]
  rw [List.getElem?_eq_getElem inside',
    List.getElem?_eq_getElem insideTarget] at found
  refine congrArg (· :: target.drop (i + 1)) ?_
  rw [← Option.some.inj found]
  simp only [swapped, List.getElem_set]
  split_ifs with last
  · subst last
    rfl
  · rfl

theorem exists_draws (last : ℕ) {items target : List α}
    (inside : last < items.length) (permuted : target.Perm items)
    (same : items.drop (last + 1) = target.drop (last + 1)) :
    ∃ script, ∀ start rest,
      (scripted start).shuffleFrom last (script ++ rest) items =
        (target, rest) := by
  induction last generalizing items with
  | zero =>
      refine ⟨[], fun start rest => ?_⟩
      have parts := permuted
      rw [← List.take_append_drop 1 target, ← List.take_append_drop 1 items,
        same, List.perm_append_right_iff] at parts
      have first : target.take 1 = items.take 1 := by
        cases items with
        | nil => cases inside
        | cons item items =>
            exact List.perm_singleton.mp parts
      have equal : items = target := by
        rw [← List.take_append_drop 1 target, first, ← same,
          List.take_append_drop]
      rw [equal]
      rfl
  | succ i induction =>
      have inside' : i + 1 < target.length := permuted.length_eq ▸ inside
      have parts := permuted
      rw [← List.take_append_drop (i + 2) target,
        ← List.take_append_drop (i + 2) items, same,
        List.perm_append_right_iff] at parts
      have member : target[i + 1] ∈ items.take (i + 2) := by
        rw [← parts.mem_iff]
        exact List.mem_take_iff_getElem.mpr ⟨i + 1, by omega, rfl⟩
      obtain ⟨j, before, found⟩ := List.mem_take_iff_getElem.mp member
      have drops := @drop_swapAt α items target (i + 1) j inside (by omega)
        permuted.length_eq same (by
          rw [List.getElem?_eq_getElem inside',
            List.getElem?_eq_getElem (by omega), found])
      obtain ⟨script, drawn⟩ := induction
        (by rw [length_swapAt]; omega)
        (permuted.trans (swapAt_perm items _ _).symm) drops
      refine ⟨j :: script, fun start rest => ?_⟩
      rw [shuffleFrom]
      have draw : j % (i + 2) = j := Nat.mod_eq_of_lt (by omega)
      change (scripted start).shuffleFrom i (script ++ rest)
        (swapAt items (i + 1) (j % (i + 2))) = _
      rw [draw]
      exact drawn start rest

/-- Every order of the items is that of some draws. -/
theorem exists_shuffle {items target : List α}
    (permuted : target.Perm items) :
    ∃ script, ∀ start rest,
      (scripted start).shuffle (script ++ rest) items = (target, rest) := by
  cases items with
  | nil =>
      rw [List.perm_nil.mp permuted]
      exact ⟨[], fun _ _ => rfl⟩
  | cons item items =>
      have length := permuted.length_eq
      have all : (item :: items).length ≤ items.length + 1 := Nat.le_refl _
      apply exists_draws items.length (Nat.lt_succ_self _) permuted
      rw [List.drop_eq_nil_of_le all,
        List.drop_eq_nil_of_le (length ▸ all)]

end RandomSource

end RagBench
