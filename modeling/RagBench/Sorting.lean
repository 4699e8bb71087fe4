import Mathlib.Data.List.Sort
import Mathlib.Order.Basic

/-!
# Sorting by a key

The sort is stable.  Where the keys are distinct, the sorted list does not
depend on the order of the items.
-/

namespace RagBench

variable {α κ : Type} [LinearOrder κ] {key : α → κ}

/-- `sorted(items, key=key)`. -/
def sortBy (key : α → κ) (items : List α) : List α :=
  items.mergeSort fun left right => key left ≤ key right

theorem sortBy_perm (key : α → κ) (items : List α) :
    (sortBy key items).Perm items :=
  List.mergeSort_perm _ _

theorem sortBy_pairwise (key : α → κ) (items : List α) :
    (sortBy key items).Pairwise fun left right => key left ≤ key right := by
  refine (List.pairwise_mergeSort ?_ ?_ items).imp of_decide_eq_true
  · intro first second third low high
    exact decide_eq_true
      ((of_decide_eq_true low).trans (of_decide_eq_true high))
  · intro first second
    simpa using le_total (key first) (key second)

/-- Items in order stay as they are. -/
theorem sortBy_eq_self {items : List α}
    (sorted : items.Pairwise fun left right => key left ≤ key right) :
    sortBy key items = items :=
  List.mergeSort_of_pairwise (sorted.imp decide_eq_true)

theorem sortBy_eq_of_perm {left right : List α}
    (distinct : (left.map key).Nodup) (permuted : left.Perm right) :
    sortBy key left = sortBy key right := by
  refine List.Perm.eq_of_pairwise ?_ (sortBy_pairwise key left)
    (sortBy_pairwise key right) ((sortBy_perm key left).trans
      (permuted.trans (sortBy_perm key right).symm))
  intro first second member member' low high
  refine List.inj_on_of_nodup_map distinct
    ((sortBy_perm key left).mem_iff.mp member) ?_ (le_antisymm low high)
  exact permuted.mem_iff.mpr ((sortBy_perm key right).mem_iff.mp member')

/-- Sorting by a value that the items have. -/
theorem sortBy_map {β : Type} (key : β → κ) (read : α → β)
    (items : List α) :
    sortBy key (items.map read) =
      (sortBy (fun item => key (read item)) items).map read := by
  rw [sortBy, sortBy]
  exact (List.map_mergeSort (f := read)
    (s := fun left right => decide (key left ≤ key right))
    fun _ _ _ _ => rfl).symm

/-- Sorted items stay sorted where some are left out. -/
theorem filter_sortBy_of_nodup {items : List α}
    (distinct : (items.map key).Nodup) (keep : α → Bool) :
    (sortBy key items).filter keep = sortBy key (items.filter keep) := by
  have apart : ((items.filter keep).map key).Nodup :=
    (List.filter_sublist.map key).nodup distinct
  have permuted := (sortBy_perm key items).filter keep
  rw [← sortBy_eq_of_perm ((permuted.map key).nodup_iff.mpr apart) permuted]
  exact (sortBy_eq_self ((sortBy_pairwise key items).filter keep)).symm

/-- Items of one key keep their order. -/
theorem filter_sortBy (key : α → κ) (items : List α) (wanted : κ) :
    (sortBy key items).filter (fun item => key item = wanted) =
      items.filter fun item => key item = wanted := by
  have same : ∀ item ∈ items.filter fun item => key item = wanted,
      key item = wanted := fun item member =>
    of_decide_eq_true (List.mem_filter.mp member).2
  have kept : (items.filter fun item => key item = wanted).Sublist
      (sortBy key items) := by
    refine List.sublist_mergeSort ?_ ?_ ?_ List.filter_sublist
    · intro first second third low high
      exact decide_eq_true
        ((of_decide_eq_true low).trans (of_decide_eq_true high))
    · intro first second
      simpa using le_total (key first) (key second)
    · refine List.pairwise_of_forall_mem_list fun first member second member' =>
        decide_eq_true ?_
      rw [same first member, same second member']
  have inside := kept.filter fun item => key item = wanted
  rw [List.filter_filter] at inside
  simp only [Bool.and_self] at inside
  exact (inside.eq_of_length
    ((sortBy_perm key items).filter _).length_eq.symm).symm

/-- The keys of a sorted list depend on the items alone. -/
theorem map_sortBy_eq_of_perm {left right : List α}
    (permuted : left.Perm right) :
    (sortBy key left).map key = (sortBy key right).map key := by
  have sorted (items : List α) :
      ((sortBy key items).map key).Pairwise (· ≤ ·) :=
    List.pairwise_map.mpr (sortBy_pairwise key items)
  refine List.Perm.eq_of_pairwise ?_ (sorted left) (sorted right) ?_
  · exact fun _ _ _ _ low high => le_antisymm low high
  · exact ((sortBy_perm key left).trans
      (permuted.trans (sortBy_perm key right).symm)).map key

/-- Of the first items of a sorted list, those of one key come after all
smaller ones. -/
theorem filter_take_of_sorted {items : List α}
    (sorted : items.Pairwise fun left right => key left ≤ key right)
    (count : ℕ) (wanted : κ) :
    (items.take count).filter (fun item => key item = wanted) =
      (items.filter fun item => key item = wanted).take
        (count - items.countP fun item => key item < wanted) := by
  induction items generalizing count with
  | nil => simp
  | cons item items induction =>
      obtain ⟨least, sorted⟩ := List.pairwise_cons.mp sorted
      cases count with
      | zero => simp
      | succ count =>
          have later := induction sorted count
          rw [List.take_succ_cons, List.countP_cons]
          rcases lt_trichotomy (key item) wanted with less | same | greater
          · rw [List.filter_cons_of_neg (by simpa using less.ne),
              List.filter_cons_of_neg (by simpa using less.ne), later,
              if_pos (decide_eq_true less), Nat.succ_sub_succ]
          · have none : (items.countP fun item => key item < wanted) = 0 := by
              rw [List.countP_eq_zero]
              intro other member
              simpa using same ▸ least other member
            rw [none, Nat.sub_zero] at later
            rw [List.filter_cons_of_pos (by simpa using same),
              List.filter_cons_of_pos (by simpa using same), later, none,
              if_neg (by simp [same])]
            rfl
          · have none : ∀ part : List α, part.Sublist (item :: items) →
                part.filter (fun item => key item = wanted) = [] := by
              intro part inside
              rw [List.filter_eq_nil_iff]
              intro other member
              have large : wanted < key other := by
                rcases List.mem_cons.mp (inside.subset member) with rfl | after
                · exact greater
                · exact greater.trans_le (least other after)
              simpa using large.ne'
            rw [none _ ((List.take_sublist _ _).cons_cons item),
              none _ (.refl _), List.take_nil]

end RagBench
