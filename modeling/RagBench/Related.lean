import Mathlib.Data.List.Chain
import Mathlib.Data.List.Forall2

/-!
# Lists related item by item

What holds of neighbours, of pairs or of images in one list holds in a list
that is related to it item by item.
-/

namespace RagBench

variable {α β γ : Type} {relation : α → β → Prop} {left : List α}
  {right : List β}

theorem exists_left_of_forall₂ (related : List.Forall₂ relation left right)
    {item : β} (member : item ∈ right) :
    ∃ other ∈ left, relation other item := by
  induction related with
  | nil => cases member
  | cons first _ induction =>
      rcases List.mem_cons.mp member with rfl | later
      · exact ⟨_, List.mem_cons_self, first⟩
      · obtain ⟨other, found, holds⟩ := induction later
        exact ⟨other, List.mem_cons_of_mem _ found, holds⟩

theorem exists_right_of_forall₂ (related : List.Forall₂ relation left right)
    {item : α} (member : item ∈ left) :
    ∃ other ∈ right, relation item other :=
  exists_left_of_forall₂ related.flip member

theorem map_eq_of_forall₂ (first : α → γ) (second : β → γ)
    (same : ∀ item other, relation item other → second other = first item)
    (related : List.Forall₂ relation left right) :
    right.map second = left.map first := by
  induction related with
  | nil => rfl
  | cons holds _ induction =>
      rw [List.map_cons, List.map_cons, same _ _ holds, induction]

/-- Filters that agree on related items. -/
theorem filter_of_forall₂ (keep : α → Bool) (keep' : β → Bool)
    (agree : ∀ item other, relation item other → keep' other = keep item)
    (related : List.Forall₂ relation left right) :
    List.Forall₂ relation (left.filter keep) (right.filter keep') := by
  induction related with
  | nil => exact .nil
  | cons holds _ induction =>
      rw [List.filter_cons, List.filter_cons, agree _ _ holds]
      split_ifs
      · exact .cons holds induction
      · exact induction

/-- Two lists related to one list are related to each other. -/
theorem forall₂_of_common {first : α → β → Prop} {second : α → γ → Prop}
    {common : β → γ → Prop} {items : List α} {lefts : List β}
    {rights : List γ} (leftAt : List.Forall₂ first items lefts)
    (rightAt : List.Forall₂ second items rights)
    (both : ∀ item ∈ items, ∀ left right, first item left →
      second item right → common left right) :
    List.Forall₂ common lefts rights := by
  induction leftAt generalizing rights with
  | nil =>
      cases rightAt
      exact .nil
  | cons left _ induction =>
      cases rightAt with
      | cons right rightAt =>
          exact .cons (both _ List.mem_cons_self _ _ left right)
            (induction rightAt fun item member =>
              both item (List.mem_cons_of_mem _ member))

theorem pairwise_of_forall₂ {before : α → α → Prop} {after : β → β → Prop}
    (carry : ∀ item item' other other', before item item' →
      relation item other → relation item' other' → after other other')
    (related : List.Forall₂ relation left right)
    (ordered : left.Pairwise before) : right.Pairwise after := by
  induction related with
  | nil => exact .nil
  | cons holds rest induction =>
      obtain ⟨early, ordered⟩ := List.pairwise_cons.mp ordered
      refine List.pairwise_cons.mpr ⟨?_, induction ordered⟩
      intro other' member
      obtain ⟨item', found, holds'⟩ := exists_left_of_forall₂ rest member
      exact carry _ _ _ _ (early item' found) holds holds'

theorem isChain_of_forall₂ {before : α → α → Prop} {after : β → β → Prop}
    (carry : ∀ item item' other other', before item item' →
      relation item other → relation item' other' → after other other')
    (related : List.Forall₂ relation left right)
    (chained : left.IsChain before) : right.IsChain after := by
  induction related with
  | nil => exact .nil
  | cons holds rest induction =>
      obtain ⟨early, chained⟩ := List.isChain_cons.mp chained
      refine List.isChain_cons.mpr ⟨?_, induction chained⟩
      intro other' head
      cases rest with
      | nil => cases head
      | cons holds' _ =>
          cases head
          exact carry _ _ _ _ (early _ rfl) holds holds'

/-- Numbering the items of a chain numbers neighbours consecutively. -/
theorem isChain_zipIdx {before : α → α → Prop}
    (chained : left.IsChain before) (start : ℕ) :
    (left.zipIdx start).IsChain fun early late =>
      before early.1 late.1 ∧ late.2 = early.2 + 1 := by
  induction left generalizing start with
  | nil => exact .nil
  | cons item left induction =>
      obtain ⟨early, chained⟩ := List.isChain_cons.mp chained
      refine List.isChain_cons.mpr ⟨?_, induction chained (start + 1)⟩
      intro next head
      rw [List.head?_zipIdx] at head
      obtain ⟨first, found, rfl⟩ := Option.map_eq_some_iff.mp head
      exact ⟨early first found, rfl⟩

/-- Either all items have a property or a first one lacks it. -/
theorem forall_or_first_failing (property : α → Prop) (items : List α) :
    (∀ item ∈ items, property item) ∨
      ∃ earlier item later, items = earlier ++ item :: later ∧
        ¬property item ∧ ∀ other ∈ earlier, property other := by
  induction items with
  | nil => exact .inl fun _ member => by cases member
  | cons first items induction =>
      by_cases holds : property first
      · rcases induction with all | ⟨earlier, item, later, rfl, fails, before⟩
        · exact .inl (List.forall_mem_cons.mpr ⟨holds, all⟩)
        · exact .inr ⟨first :: earlier, item, later, rfl, fails,
            List.forall_mem_cons.mpr ⟨holds, before⟩⟩
      · exact .inr ⟨[], first, items, rfl, holds,
          fun _ member => by cases member⟩

end RagBench
