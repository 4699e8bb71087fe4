import RagBench.Dict
import Mathlib.Algebra.BigOperators.Group.List.Basic
import Mathlib.Data.List.Perm.Basic

/-!
# Grouping by a key

The items of a list are collected under their keys, in the order of the list.
Each group is what a filter by its key keeps.
-/

namespace RagBench

variable {α κ : Type} [DecidableEq κ]

/-- `groups[key(item)].append(item)` for each item. -/
def groupInto (key : α → κ) (groups : Dict κ (List α)) (items : List α) :
    Dict κ (List α) :=
  items.foldl (fun groups item =>
    groups.set (key item) (groups.getD (key item) [] ++ [item])) groups

theorem getD_groupInto (key : α → κ) (groups : Dict κ (List α))
    (items : List α) (wanted : κ) :
    (groupInto key groups items).getD wanted [] =
      groups.getD wanted [] ++ items.filter (key · = wanted) := by
  unfold groupInto
  induction items generalizing groups with
  | nil => simp
  | cons item items induction =>
      rw [List.foldl_cons, induction, Dict.getD_set]
      by_cases same : key item = wanted
      · simp [same]
      · simp [same]

theorem mem_keys_groupInto (key : α → κ) (groups : Dict κ (List α))
    (items : List α) (wanted : κ) :
    wanted ∈ (groupInto key groups items).keys ↔
      wanted ∈ groups.keys ∨ ∃ item ∈ items, key item = wanted := by
  unfold groupInto
  induction items generalizing groups with
  | nil => simp
  | cons item items induction =>
      rw [List.foldl_cons, induction, Dict.mem_keys_set]
      simp only [List.mem_cons, exists_eq_or_imp]
      tauto

/-- The keys come in the order of their first items. -/
theorem keys_groupInto (key : α → κ) (groups : Dict κ (List α))
    (items : List α) :
    (groupInto key groups items).keys =
      (items.map key).foldl (fun keys wanted =>
        if wanted ∈ keys then keys else keys ++ [wanted]) groups.keys := by
  unfold groupInto
  induction items generalizing groups with
  | nil => rfl
  | cons item items induction =>
      rw [List.foldl_cons, induction, List.map_cons, List.foldl_cons,
        Dict.keys_set]

/-- The groups are what filters by the keys keep. -/
theorem values_groupInto (key : α → κ) (items : List α) :
    (groupInto key .empty items).values =
      (groupInto key .empty items).keys.map fun wanted =>
        items.filter (key · = wanted) := by
  rw [Dict.values, Dict.keys, List.map_map]
  refine List.map_congr_left fun entry member => ?_
  have found : (groupInto key .empty items).getD entry.1 [] = entry.2 :=
    Dict.getD_eq_of_mem _ member []
  rw [getD_groupInto] at found
  exact found.symm

/-- Filters by different keys cut a list into parts. -/
theorem flatMap_filter_perm (key : α → κ) {keys : List κ} {items : List α}
    (distinct : keys.Nodup) (within : ∀ item ∈ items, key item ∈ keys) :
    (keys.flatMap fun wanted => items.filter (key · = wanted)).Perm items := by
  induction items with
  | nil => simp
  | cons item items induction =>
      obtain ⟨here, later⟩ := List.forall_mem_cons.mp within
      refine List.Perm.trans ?_ ((induction later).cons item)
      obtain ⟨before, after, rfl⟩ := List.append_of_mem here
      have fresh := (List.nodup_cons.mp (List.nodup_middle.mp distinct)).1
      have same : ∀ part : List κ, (∀ wanted ∈ part, key item ≠ wanted) →
          (part.flatMap fun wanted => (item :: items).filter
            (key · = wanted)) =
          part.flatMap fun wanted => items.filter (key · = wanted) := by
        intro part different
        refine List.flatMap_congr fun wanted member => ?_
        rw [List.filter_cons_of_neg (by simpa using different wanted member)]
      have absent : ∀ wanted ∈ before ++ after, key item ≠ wanted := by
        rintro wanted member rfl
        exact fresh member
      rw [List.flatMap_append, List.flatMap_cons, List.flatMap_append,
        List.flatMap_cons,
        same before fun wanted member =>
          absent wanted (List.mem_append_left _ member),
        same after fun wanted member =>
          absent wanted (List.mem_append_right _ member),
        List.filter_cons_of_pos (by simp), List.cons_append]
      exact List.perm_middle

/-- What is summed over the parts is summed over the list. -/
theorem sum_filter_keys {M : Type} [AddCommMonoid M] (key : α → κ)
    {keys : List κ} {items : List α} (distinct : keys.Nodup)
    (within : ∀ item ∈ items, key item ∈ keys) (value : α → M) :
    (keys.map fun wanted =>
      ((items.filter (key · = wanted)).map value).sum).sum =
      (items.map value).sum := by
  have permuted := (flatMap_filter_perm key distinct within).map value
  rw [← permuted.sum_eq, List.map_flatMap, List.flatMap_def,
    List.sum_flatten, List.map_map]
  rfl

/-! ## The first of each group -/

/-- The items without an earlier one of the same key. -/
def firstBy (key : α → κ) : List α → List α
  | [] => []
  | item :: rest =>
      item :: (firstBy key rest).filter fun other => key other ≠ key item

theorem firstBy_map {β : Type} (read : α → β) (key : β → κ)
    (items : List α) :
    firstBy key (items.map read) =
      (firstBy (fun item => key (read item)) items).map read := by
  induction items with
  | nil => rfl
  | cons item items induction =>
      rw [List.map_cons, firstBy, firstBy, induction, List.map_cons,
        List.filter_map]
      rfl

theorem firstBy_sublist (key : α → κ) (items : List α) :
    (firstBy key items).Sublist items := by
  induction items with
  | nil => exact .refl _
  | cons item items induction =>
      exact (List.filter_sublist.trans induction).cons_cons item

theorem keys_firstBy_nodup (key : α → κ) (items : List α) :
    ((firstBy key items).map key).Nodup := by
  induction items with
  | nil => exact List.nodup_nil
  | cons item items induction =>
      rw [firstBy, List.map_cons, List.nodup_cons]
      refine ⟨?_, induction.sublist (List.filter_sublist.map key)⟩
      rw [List.mem_map]
      rintro ⟨other, member, same⟩
      exact of_decide_eq_true (List.mem_filter.mp member).2 same

/-- The first item with a key is kept. -/
theorem find?_firstBy (key : α → κ) (items : List α) (wanted : κ) :
    (firstBy key items).find? (fun item => key item = wanted) =
      items.find? fun item => key item = wanted := by
  induction items with
  | nil => rfl
  | cons item items induction =>
      rw [firstBy]
      by_cases same : key item = wanted
      · rw [List.find?_cons_of_pos (by simpa using same),
          List.find?_cons_of_pos (by simpa using same)]
      · rw [List.find?_cons_of_neg (by simpa using same),
          List.find?_cons_of_neg (by simpa using same), List.find?_filter,
          ← induction]
        refine congrArg (fun test => (firstBy key items).find? test)
          (funext fun other => ?_)
        by_cases found : key other = wanted
        · simp [found, Ne.symm same]
        · simp [found]

theorem mem_firstBy_iff {key : α → κ} {items : List α} {item : α} :
    item ∈ firstBy key items ↔
      items.find? (fun other => key other = key item) = some item := by
  rw [← find?_firstBy]
  constructor
  · intro member
    cases found : (firstBy key items).find? fun other => key other = key item with
    | none =>
        have missing := List.find?_eq_none.mp found item member
        exact absurd (decide_eq_true rfl) missing
    | some other =>
        have same : key other = key item := by
          simpa using List.find?_some found
        rw [List.inj_on_of_nodup_map (keys_firstBy_nodup key items)
          (List.mem_of_find?_eq_some found) member same]
  · exact List.mem_of_find?_eq_some

theorem firstBy_concat (key : α → κ) (items : List α) (item : α) :
    firstBy key (items ++ [item]) =
      if key item ∈ items.map key then firstBy key items
      else firstBy key items ++ [item] := by
  induction items with
  | nil => rfl
  | cons first items induction =>
      rw [List.cons_append, firstBy, induction, firstBy, List.map_cons]
      by_cases same : key item = key first
      · rw [if_pos (List.mem_cons.mpr (.inl same))]
        split_ifs
        · rfl
        · rw [List.filter_append, List.filter_cons_of_neg (by simpa using same),
            List.filter_nil, List.append_nil]
      · have listed : key item ∈ key first :: items.map key ↔
            key item ∈ items.map key := by
          rw [List.mem_cons]
          exact or_iff_right same
        simp only [listed]
        split_ifs
        · rfl
        · rw [List.filter_append, List.filter_cons_of_pos (by simpa using same),
            List.filter_nil, List.cons_append]

end RagBench
