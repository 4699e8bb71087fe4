import Mathlib.Algebra.GroupWithZero.Nat
import Mathlib.Algebra.Order.BigOperators.Group.List
import RagBench.Related

/-!
# Texts joined with a separator

Empty parts are left out of the join, so a join of joins is the join of all
parts, and leaving out a further part makes the text shorter.
-/

namespace RagBench

/-- The non-empty parts, joined in order. -/
def joinNonempty (separator : String) (parts : List String) : String :=
  separator.intercalate (parts.filter (· ≠ ""))

variable {separator : String}

@[simp] theorem joinNonempty_nil : joinNonempty separator [] = "" := by
  simp [joinNonempty]

theorem joinNonempty_of_nonempty {parts : List String}
    (nonempty : ∀ part ∈ parts, part ≠ "") :
    joinNonempty separator parts = separator.intercalate parts := by
  rw [joinNonempty, List.filter_eq_self.mpr (by simpa using nonempty)]

theorem intercalate_ne_empty (separator : String) {parts : List String}
    (nonempty : ∀ part ∈ parts, part ≠ "") (some : parts ≠ []) :
    separator.intercalate parts ≠ "" := by
  cases parts with
  | nil => exact absurd rfl some
  | cons part parts =>
      have filled := nonempty part List.mem_cons_self
      by_cases last : parts = []
      · simpa [last] using filled
      · rw [String.intercalate_cons_of_ne_nil last]
        simp [String.append_eq_empty_iff, filled]

theorem joinNonempty_eq_empty_iff (separator : String) {parts : List String} :
    joinNonempty separator parts = "" ↔ ∀ part ∈ parts, part = "" := by
  constructor
  · intro empty part member
    by_contra filled
    refine intercalate_ne_empty separator ?_ ?_ empty
    · exact fun item found => by simpa using (List.mem_filter.mp found).2
    · exact List.ne_nil_of_mem
        (List.mem_filter.mpr ⟨member, by simpa using filled⟩)
  · intro empty
    have none : parts.filter (· ≠ "") = [] :=
      List.filter_eq_nil_iff.mpr (by simpa using empty)
    rw [joinNonempty, none, String.intercalate_nil]

private theorem filter_eq_nil_iff {parts : List String} :
    parts.filter (· ≠ "") = [] ↔ ∀ part ∈ parts, part = "" := by
  rw [List.filter_eq_nil_iff]
  simp

/-- A join of joins is the join of all parts. -/
theorem joinNonempty_flatten (groups : List (List String)) :
    joinNonempty separator groups.flatten =
      joinNonempty separator (groups.map (joinNonempty separator)) := by
  induction groups with
  | nil => rfl
  | cons group groups induction =>
      rw [List.flatten_cons, List.map_cons]
      by_cases none : group.filter (· ≠ "") = []
      · have empty : joinNonempty separator group = "" :=
          (joinNonempty_eq_empty_iff separator).mpr (filter_eq_nil_iff.mp none)
        rw [joinNonempty, List.filter_append, none, List.nil_append, empty]
        rw [joinNonempty, List.filter_cons_of_neg (by simp)]
        exact induction
      · have filled : joinNonempty separator group ≠ "" := fun empty =>
          none (filter_eq_nil_iff.mpr
            ((joinNonempty_eq_empty_iff separator).mp empty))
        rw [joinNonempty, joinNonempty, List.filter_append,
          List.filter_cons_of_pos (by simpa using filled)]
        by_cases rest : groups.flatten.filter (· ≠ "") = []
        · have others : (groups.map (joinNonempty separator)).filter
              (· ≠ "") = [] := by
            rw [filter_eq_nil_iff, ← joinNonempty_eq_empty_iff separator,
              ← induction]
            exact (joinNonempty_eq_empty_iff separator).mpr
              (filter_eq_nil_iff.mp rest)
          rw [rest, others, List.append_nil, String.intercalate_singleton]
          rfl
        · have others : (groups.map (joinNonempty separator)).filter
              (· ≠ "") ≠ [] := by
            rw [Ne, filter_eq_nil_iff, ← joinNonempty_eq_empty_iff separator,
              ← induction, joinNonempty_eq_empty_iff, ← filter_eq_nil_iff]
            exact rest
          rw [String.intercalate_append_of_ne_nil none rest,
            String.intercalate_cons_of_ne_nil others]
          exact congrArg (joinNonempty separator group ++ separator ++ ·)
            induction

theorem intercalate_flatten {groups : List (List String)}
    (nonempty : ∀ group ∈ groups, ∀ part ∈ group, part ≠ "") :
    separator.intercalate groups.flatten =
      joinNonempty separator (groups.map (separator.intercalate ·)) := by
  have all : ∀ part ∈ groups.flatten, part ≠ "" := by
    intro part member
    obtain ⟨group, found, inside⟩ := List.mem_flatten.mp member
    exact nonempty group found part inside
  rw [← joinNonempty_of_nonempty all, joinNonempty_flatten]
  congr 1
  exact List.map_congr_left fun group found =>
    joinNonempty_of_nonempty (nonempty group found)

/-! ## The length of a join -/

/-- The characters of the parts, each with a separator. -/
private def weight (separator : String) (parts : List String) : ℕ :=
  (parts.map fun part =>
    part.toList.length + separator.toList.length).sum

private theorem length_intercalate (separator : String) {parts : List String}
    (some : parts ≠ []) :
    (separator.intercalate parts).toList.length + separator.toList.length =
      weight separator parts := by
  induction parts with
  | nil => exact absurd rfl some
  | cons part parts induction =>
      by_cases last : parts = []
      · simp [last, weight]
      · have rest := induction last
        rw [String.intercalate_cons_of_ne_nil last, weight, List.map_cons,
          List.sum_cons, ← weight, ← rest]
        simp only [String.toList_append, List.length_append]
        omega

/-- Taking a part away from a join changes its length. -/
private theorem eq_of_weight_le (separator : String)
    {contents extracted : List String}
    (related : List.Forall₂ (fun content whole => content ≠ "" →
      whole = content) contents extracted) :
    weight separator (contents.filter (· ≠ "")) ≤
        weight separator (extracted.filter (· ≠ "")) ∧
      (weight separator (extracted.filter (· ≠ "")) ≤
          weight separator (contents.filter (· ≠ "")) →
        contents = extracted) := by
  induction related with
  | nil => exact ⟨le_rfl, fun _ => rfl⟩
  | @cons content whole contents extracted first _ induction =>
      obtain ⟨small, equal⟩ := induction
      by_cases empty : content = ""
      · by_cases missing : whole = ""
        · subst empty missing
          rw [List.filter_cons_of_neg (by simp),
            List.filter_cons_of_neg (by simp)]
          exact ⟨small, fun large => by rw [equal large]⟩
        · have positive : 0 < whole.toList.length := by
            rw [List.length_pos_iff]
            exact fun none => missing (String.toList_inj.mp none)
          rw [List.filter_cons_of_neg (by simpa using empty),
            List.filter_cons_of_pos (by simpa using missing)]
          simp only [weight, List.map_cons, List.sum_cons] at small ⊢
          exact ⟨by omega, fun large => by omega⟩
      · obtain rfl := first empty
        rw [List.filter_cons_of_pos (by simpa using empty),
          List.filter_cons_of_pos (by simpa using empty)]
        simp only [weight, List.map_cons, List.sum_cons] at small equal ⊢
        exact ⟨by omega, fun large => by rw [equal (by omega)]⟩

/-- Parts that are missing on one side are seen in the join, unless that join
is empty. -/
theorem joinNonempty_eq_iff {contents extracted : List String}
    (related : List.Forall₂ (fun content whole => content ≠ "" →
      whole = content) contents extracted)
    (some : ∃ content ∈ contents, content ≠ "") :
    joinNonempty separator contents = joinNonempty separator extracted ↔
      contents = extracted := by
  constructor
  · intro same
    obtain ⟨content, member, filled⟩ := some
    have left : contents.filter (· ≠ "") ≠ [] := fun none =>
      filled (filter_eq_nil_iff.mp none content member)
    have right : extracted.filter (· ≠ "") ≠ [] := by
      intro none
      have empty := (joinNonempty_eq_empty_iff separator).mpr
        (filter_eq_nil_iff.mp none)
      rw [← same] at empty
      exact filled ((joinNonempty_eq_empty_iff separator).mp empty content member)
    refine (eq_of_weight_le separator related).2 ?_
    rw [← length_intercalate separator left,
      ← length_intercalate separator right]
    exact (congrArg (fun text : String =>
      text.toList.length + separator.toList.length) same).ge
  · rintro rfl
    rfl

/-! ## A join with a fallback -/

/-- Every item has a first text and a whole text.  The join of the images of
the first texts, or of the fallback when all first texts are empty, is the
join of the images of the whole texts. -/
theorem fallback_join_iff {ι : Type} (separator : String)
    (fallback : List String) (image : ι → String → String → Prop)
    (unique : ∀ item text result result', image item text result →
      image item text result' → result = result')
    (empty_iff : ∀ item text result, image item text result →
      (result = "" ↔ text = ""))
    {items : List ι} {first whole : ι → String}
    (prefers : ∀ item ∈ items, first item ≠ "" → whole item = first item)
    {contents : List String}
    (contentsAt : List.Forall₂ (fun item => image item (first item)) items
      contents) :
    (∃ wholes, List.Forall₂ (fun item => image item (whole item)) items
          wholes ∧
        (if joinNonempty separator contents = "" then
            joinNonempty separator fallback
          else joinNonempty separator contents) =
          joinNonempty separator wholes) ↔
      ((∃ item ∈ items, first item ≠ "") →
        ∀ item ∈ items, first item = "" → whole item = "") ∧
      ((∀ item ∈ items, first item = "") →
        ∃ wholes, List.Forall₂ (fun item => image item (whole item)) items
            wholes ∧
          joinNonempty separator fallback =
            joinNonempty separator wholes) := by
  have allEmpty : joinNonempty separator contents = "" ↔
      ∀ item ∈ items, first item = "" := by
    rw [joinNonempty_eq_empty_iff]
    constructor
    · intro empty item member
      obtain ⟨result, found, at'⟩ := exists_right_of_forall₂ contentsAt member
      exact (empty_iff _ _ _ at').mp (empty result found)
    · intro empty result member
      obtain ⟨item, found, at'⟩ := exists_left_of_forall₂ contentsAt member
      exact (empty_iff _ _ _ at').mpr (empty item found)
  by_cases none : ∀ item ∈ items, first item = ""
  · rw [if_pos (allEmpty.mpr none)]
    constructor
    · intro wholes
      refine ⟨?_, fun _ => wholes⟩
      rintro ⟨item, member, filled⟩
      exact absurd (none item member) filled
    · exact fun conditions => conditions.2 none
  · have some : ∃ item ∈ items, first item ≠ "" := by
      push Not at none
      exact none
    rw [if_neg (mt allEmpty.mp none)]
    constructor
    · rintro ⟨wholes, wholesAt, same⟩
      have related : List.Forall₂ (fun content whole => content ≠ "" →
          whole = content) contents wholes := by
        refine forall₂_of_common contentsAt wholesAt ?_
        intro item member content result contentAt resultAt filled
        have stated := prefers item member
          (mt (empty_iff _ _ _ contentAt).mpr filled)
        rw [stated] at resultAt
        exact unique _ _ _ _ resultAt contentAt
      have someContent : ∃ content ∈ contents, content ≠ "" := by
        obtain ⟨item, member, filled⟩ := some
        obtain ⟨content, found, at'⟩ :=
          exists_right_of_forall₂ contentsAt member
        exact ⟨content, found, mt (empty_iff _ _ _ at').mp filled⟩
      obtain rfl := (joinNonempty_eq_iff related someContent).mp same
      refine ⟨fun _ item member empty => ?_, fun all => absurd all none⟩
      obtain ⟨content, _, contentAt, wholeAt⟩ := exists_right_of_forall₂
        (contentsAt.mp (fun _ _ left right => And.intro left right) wholesAt)
        member
      exact (empty_iff _ _ _ wholeAt).mp
        ((empty_iff _ _ _ contentAt).mpr empty)
    · intro conditions
      have hidden := conditions.1 some
      refine ⟨contents, ?_, rfl⟩
      refine ((List.forall₂_and_left items contents).mpr
        ⟨fun item member => member, contentsAt⟩).imp ?_
      rintro item content ⟨member, contentAt⟩
      by_cases empty : first item = ""
      · rwa [hidden item member empty, ← empty]
      · rwa [prefers item member empty]

end RagBench
