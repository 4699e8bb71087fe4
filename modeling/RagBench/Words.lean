import RagBench.PyText

/-!
# Words of a text

`text.split()` and its inverse on words, `" ".join(words)`.
-/

namespace RagBench

/-- `text.split()`. -/
def splitWords (text : String) : List String :=
  ((text.toList.splitOnP isSpace).filter (· ≠ [])).map String.ofList

/-- A word has characters, and none of them is a space. -/
def IsWord (word : String) : Prop :=
  word ≠ "" ∧ ∀ character ∈ word.toList, isSpace character = false

theorem mem_splitOnP {α : Type} {p : α → Bool} {items part : List α}
    (member : part ∈ items.splitOnP p) : ∀ item ∈ part, p item = false := by
  induction items generalizing part with
  | nil =>
      rw [List.splitOnP_nil, List.mem_singleton] at member
      subst member
      exact List.forall_mem_nil _
  | cons item items induction =>
      rw [List.splitOnP_cons_eq_if_modifyHead] at member
      split_ifs at member with splits
      · rcases List.mem_cons.mp member with rfl | member
        · exact List.forall_mem_nil _
        · exact induction member
      · cases parts : items.splitOnP p with
        | nil => exact absurd parts (List.splitOnP_ne_nil p items)
        | cons first rest =>
            rw [parts] at member induction
            rcases List.mem_cons.mp member with rfl | member
            · exact List.forall_mem_cons.mpr
                ⟨Bool.eq_false_iff.mpr splits,
                  induction List.mem_cons_self⟩
            · exact induction (List.mem_cons_of_mem _ member)

theorem isWord_of_mem {text word : String} (member : word ∈ splitWords text) :
    IsWord word := by
  obtain ⟨part, kept, rfl⟩ := List.mem_map.mp member
  obtain ⟨split, nonempty⟩ := List.mem_filter.mp kept
  constructor
  · intro empty
    exact of_decide_eq_true nonempty (String.ofList_eq_empty_iff.mp empty)
  · rw [String.toList_ofList]
    exact mem_splitOnP split

/-- Words that are joined are split again. -/
theorem splitWords_intercalate {words : List String}
    (each : ∀ word ∈ words, IsWord word) :
    splitWords (" ".intercalate words) = words := by
  induction words with
  | nil => rfl
  | cons word rest induction =>
      obtain ⟨⟨nonempty, solid⟩, each⟩ := List.forall_mem_cons.mp each
      have kept : decide (word.toList ≠ []) = true :=
        decide_eq_true fun empty =>
          nonempty (String.toList_eq_nil_iff.mp empty)
      cases rest with
      | nil =>
          rw [String.intercalate_singleton, splitWords,
            List.splitOnP_eq_singleton solid, List.filter_cons_of_pos
              (p := fun part : List Char => decide (part ≠ [])) kept]
          simp
      | cons next rest =>
          have later := induction each
          rw [splitWords] at later
          rw [String.intercalate_cons_of_ne_nil (List.cons_ne_nil _ _),
            splitWords, String.toList_append, String.toList_append]
          have space : " ".toList = [' '] := rfl
          rw [space, List.append_assoc, List.singleton_append,
            List.splitOnP_append_cons_of_forall_mem solid ' ' rfl,
            List.filter_cons_of_pos
              (p := fun part : List Char => decide (part ≠ [])) kept,
            List.map_cons, later, String.ofList_toList]

end RagBench
