import RagBench.Dict
import Mathlib.Data.List.Count

/-!
# Counters

A counter is a dictionary of positive numbers; a key that has not been counted
has no entry.
-/

namespace RagBench

variable {κ : Type} [DecidableEq κ]

/-- The counter has an entry for each key that occurs. -/
def Tallies (counts : Dict κ ℕ) (times : κ → ℕ) : Prop :=
  ∀ key, counts.get? key = if times key = 0 then none else some (times key)

namespace Tallies

variable {counts : Dict κ ℕ} {times : κ → ℕ}

theorem getD (tallies : Tallies counts times) (key : κ) :
    counts.getD key 0 = times key := by
  rw [Dict.getD, tallies key]
  split_ifs with absent
  · exact absent.symm
  · rfl

theorem empty : Tallies (.empty : Dict κ ℕ) fun _ => 0 :=
  fun _ => rfl

theorem congr {times' : κ → ℕ} (tallies : Tallies counts times)
    (same : ∀ key, times key = times' key) : Tallies counts times' := by
  intro key
  rw [tallies key, same key]

/-- `counts[key] += 1`. -/
theorem count (tallies : Tallies counts times) (key : κ) :
    Tallies (counts.set key (counts.getD key 0 + 1)) fun other =>
      times other + if key = other then 1 else 0 := by
  intro other
  rw [Dict.get?_set, tallies.getD, tallies other]
  by_cases same : key = other
  · subst same
    simp
  · simp [same]

/-- `counts[key] += 1` for the key of each item. -/
theorem countEach {ι : Type} (keyOf : ι → κ) (items : List ι)
    (tallies : Tallies counts times) :
    Tallies (items.foldl (fun counts item =>
        counts.set (keyOf item) (counts.getD (keyOf item) 0 + 1)) counts)
      fun other => times other + (items.map keyOf).count other := by
  induction items generalizing counts times with
  | nil => exact tallies
  | cons item items induction =>
      refine (induction (tallies.count (keyOf item))).congr fun other => ?_
      rw [List.map_cons, List.count_cons, beq_eq_decide]
      simp only [decide_eq_true_eq]
      omega

/-- The same for items with distinct keys. -/
theorem countDistinct {ι : Type} (keyOf : ι → κ) {items : List ι}
    (tallies : Tallies counts times) (distinct : (items.map keyOf).Nodup) :
    Tallies (items.foldl (fun counts item =>
        counts.set (keyOf item) (counts.getD (keyOf item) 0 + 1)) counts)
      fun other => times other + if other ∈ items.map keyOf then 1 else 0 :=
  (tallies.countEach keyOf items).congr fun other => by rw [distinct.count]

/-- A table of the keys that occur, in a given order. -/
theorem ofList {order items : List κ} (distinct : order.Nodup)
    (listed : ∀ key ∈ items, key ∈ order) :
    Tallies (.ofList ((order.filter fun key => key ∈ items).map fun key =>
      (key, items.count key))) fun key => items.count key := by
  have keys : ((order.filter fun key => key ∈ items).map fun key =>
      (key, items.count key)).map Prod.fst =
        order.filter fun key => key ∈ items := by
    simp [List.map_map, Function.comp_def]
  have entries := Dict.entries_ofList (keys.symm ▸ distinct.filter _ :
    (((order.filter fun key => key ∈ items).map fun key =>
      (key, items.count key)).map Prod.fst).Nodup)
  intro key
  by_cases present : key ∈ items
  · have positive : items.count key ≠ 0 :=
      (List.count_pos_iff.mpr present).ne'
    rw [if_neg positive, Dict.get?_eq_some_iff, entries]
    refine List.mem_map.mpr ⟨key, ?_, rfl⟩
    rw [List.mem_filter]
    exact ⟨listed key present, by simpa using present⟩
  · rw [if_pos (List.count_eq_zero_of_not_mem present), Dict.get?,
      Dict.lookup_eq_none_iff, entries, keys, List.mem_filter]
    rintro ⟨-, member⟩
    exact present (by simpa using member)

end Tallies

end RagBench
