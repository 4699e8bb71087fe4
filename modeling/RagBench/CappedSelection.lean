import Mathlib.Data.List.Count
import Mathlib.Data.List.Sort

/-!
# Greedy selection under two caps

Items are taken in their order, and an item is passed over when as many items
as the cap allows share its first or its second feature.  Whether an item is
taken depends on the items before it only.
-/

namespace RagBench

variable {α β γ : Type} [DecidableEq β] [DecidableEq γ]

/-- The two features that are capped. -/
structure CappedFeatures (α β γ : Type) where
  first : α → β
  second : α → γ

namespace CappedFeatures

variable (features : CappedFeatures α β γ) (cap : ℕ)

/-- The cap is reached for a feature of the item. -/
def IsFull (selected : List α) (item : α) : Prop :=
  cap ≤ (selected.map features.first).count (features.first item) ∨
    cap ≤ (selected.map features.second).count (features.second item)

instance (selected : List α) (item : α) :
    Decidable (features.IsFull cap selected item) :=
  inferInstanceAs (Decidable (_ ∨ _))

/-- What is selected in the end. -/
def select (selected : List α) : List α → List α
  | [] => selected
  | item :: rest =>
      if features.IsFull cap selected item then select selected rest
      else select (selected ++ [item]) rest

variable {features cap} {selected items : List α} {item : α}

theorem select_append (before after : List α) :
    features.select cap selected (before ++ after) =
      features.select cap (features.select cap selected before) after := by
  induction before generalizing selected with
  | nil => rfl
  | cons item before induction =>
      rw [List.cons_append, select, select]
      split_ifs
      · exact induction
      · exact induction

variable (features cap)

/-- What is added is taken from the items, in their order. -/
theorem select_eq (selected items : List α) :
    ∃ added, features.select cap selected items = selected ++ added ∧
      added.Sublist items := by
  induction items generalizing selected with
  | nil => exact ⟨[], (List.append_nil _).symm, .refl _⟩
  | cons item items induction =>
      rw [select]
      split_ifs
      · obtain ⟨added, same, inside⟩ := induction selected
        exact ⟨added, same, inside.cons item⟩
      · obtain ⟨added, same, inside⟩ := induction (selected ++ [item])
        rw [List.append_assoc] at same
        exact ⟨item :: added, same, inside.cons_cons item⟩

theorem select_sublist (items : List α) :
    (features.select cap [] items).Sublist items := by
  obtain ⟨added, same, inside⟩ :=
    features.select_eq cap [] items
  rw [same]
  exact inside

theorem prefix_select (selected items : List α) :
    selected <+: features.select cap selected items := by
  obtain ⟨added, same, -⟩ :=
    features.select_eq cap selected items
  rw [same]
  exact List.prefix_append _ _

variable {features cap}

/-- The cap holds for both features. -/
structure Respects (features : CappedFeatures α β γ) (cap : ℕ)
    (selected : List α) : Prop where
  first : ∀ feature, (selected.map features.first).count feature ≤ cap
  second : ∀ feature, (selected.map features.second).count feature ≤ cap

private theorem count_append_le {δ : Type} [DecidableEq δ] {read : α → δ}
    (bounded : ∀ feature, (selected.map read).count feature ≤ cap)
    (free : ¬ cap ≤ (selected.map read).count (read item)) (feature : δ) :
    ((selected ++ [item]).map read).count feature ≤ cap := by
  rw [List.map_append, List.count_append, List.map_cons, List.map_nil,
    List.count_singleton, beq_eq_decide]
  have below := bounded feature
  by_cases same : read item = feature
  · subst same
    simp only [decide_true, if_true]
    omega
  · simpa [same] using below

theorem Respects.select (respects : features.Respects cap selected)
    (items : List α) :
    features.Respects cap (features.select cap selected items) := by
  induction items generalizing selected with
  | nil => exact respects
  | cons item items induction =>
      rw [CappedFeatures.select]
      split_ifs with full
      · exact induction respects
      · obtain ⟨first, second⟩ := not_or.mp full
        exact induction
          { first := count_append_le respects.first first
            second := count_append_le respects.second second }

/-- An item that was passed over was full at its turn. -/
theorem isFull_of_not_mem {before after : List α}
    (missing : item ∉ features.select cap selected (before ++ item :: after)) :
    features.IsFull cap (features.select cap selected before) item := by
  rw [select_append, select] at missing
  split_ifs at missing with full
  · exact full
  · refine absurd ((prefix_select _ _ _ after).subset ?_) missing
    exact List.mem_append_right _ List.mem_cons_self

/-- More items do not make room. -/
theorem IsFull.widen {longer : List α}
    (full : features.IsFull cap selected item) (first : selected <+: longer) :
    features.IsFull cap longer item := by
  have more {δ : Type} [DecidableEq δ] (read : α → δ) (feature : δ) :
      (selected.map read).count feature ≤ (longer.map read).count feature :=
    (first.sublist.map read).count_le feature
  rcases full with first | second
  · exact .inl (first.trans (more _ _))
  · exact .inr (second.trans (more _ _))

/-- In the end, every item that is not selected is full. -/
theorem isFull_select (member : item ∈ items)
    (missing : item ∉ features.select cap selected items) :
    features.IsFull cap (features.select cap selected items) item := by
  obtain ⟨before, after, rfl⟩ := List.append_of_mem member
  rw [select_append]
  exact (isFull_of_not_mem missing).widen (prefix_select _ _ _ _)

/-- Among sorted items, an item better than one of the first `size` selected
ones is among them too, or it is full once the better ones are selected. -/
theorem isFull_of_better {κ : Type} [LinearOrder κ] {key : α → κ} {size : ℕ}
    {last : α}
    (sorted : items.Pairwise fun left right => key left < key right)
    (member : item ∈ items)
    (missing : item ∉ (features.select cap [] items).take size)
    (chosen : last ∈ (features.select cap [] items).take size)
    (better : key item < key last) :
    ∃ earlier, earlier <+: (features.select cap [] items).take size ∧
      (∀ other ∈ earlier, key other < key item) ∧
      features.IsFull cap earlier item := by
  have ordered := sorted.sublist (features.select_sublist cap items)
  have absent : item ∉ features.select cap [] items := by
    intro selected
    rw [← List.take_append_drop size (features.select cap [] items)]
      at ordered selected
    rcases List.mem_append.mp selected with taken | dropped
    · exact missing taken
    · have later := (List.pairwise_append.mp ordered).2.2 last chosen item
        dropped
      exact lt_asymm better later
  obtain ⟨before, after, rfl⟩ := List.append_of_mem member
  have first : features.select cap [] before <+:
      features.select cap [] (before ++ item :: after) := by
    rw [select_append]
    exact prefix_select _ _ _ _
  have above : ∀ other ∈ features.select cap [] before,
      key other < key item := fun other selected =>
    (List.pairwise_append.mp sorted).2.2 other
      ((features.select_sublist cap before).subset selected) item List.mem_cons_self
  refine ⟨_, ?_, above, isFull_of_not_mem absent⟩
  rcases List.prefix_or_prefix_of_prefix first (List.take_prefix size _) with
    inside | outside
  · exact inside
  · exact absurd better (lt_asymm (above last (outside.subset chosen)))

end CappedFeatures

end RagBench
