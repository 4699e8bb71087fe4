import RagBench.Core.JsonReader
import RagBench.Substitution

/-!
# Tags in JSON texts

A tag begins with an angle bracket and is written as it is.  It has none of the
characters around strings, so it stands in a JSON text where it stands in one
of the strings.
-/

namespace RagBench

/-- What strings are escaped, quoted and joined with. -/
def isJoint (character : Char) : Bool :=
  character ∈ ['"', '\\', ',', ':', '[', ']', '\x7b', '\x7d', ' ']

structure IsTag (pattern : List Char) : Prop where
  opens : pattern.head? = some '<'
  plain : ∀ character ∈ pattern, isJoint character = false
  printable : ∀ character ∈ pattern, 32 ≤ character.toNat

/-- An escape has no angle bracket. -/
theorem escapeChar_cases (character : Char) :
    escapeChar character = [character] ∨
      ∃ tail, escapeChar character = '\\' :: tail ∧ '<' ∉ tail := by
  have digits : ∀ digit < 16, Nat.digitChar digit ≠ '<' := by
    decide
  unfold escapeChar
  split_ifs with quote backslash newline feed tab form back control
  pick_goal 8
  · right
    have high := digits (character.toNat / 16) (by omega)
    have low := digits (character.toNat % 16) (by omega)
    refine ⟨_, rfl, ?_⟩
    simp [high.symm, low.symm]
  pick_goal 8
  · exact .inl rfl
  all_goals exact .inr ⟨_, rfl, by decide⟩

theorem escapeChar_plain {character : Char}
    (plain : isJoint character = false)
    (printable : 32 ≤ character.toNat) :
    escapeChar character = [character] := by
  unfold escapeChar
  rw [if_neg, if_neg, if_neg, if_neg, if_neg, if_neg, if_neg, if_neg]
  · omega
  pick_goal 6
  · rintro rfl
    cases plain
  pick_goal 6
  · rintro rfl
    cases plain
  all_goals
    rintro rfl
    exact absurd printable (by decide)

namespace IsTag

variable {pattern : List Char} (tag : IsTag pattern)

include tag

theorem ne_nil : pattern ≠ [] := by
  rintro rfl
  cases tag.opens

theorem fresh {joint : Char} (joins : isJoint joint = true) :
    joint ∉ pattern := by
  intro member
  rw [tag.plain joint member] at joins
  cases joins

theorem not_infix_nil : ¬ pattern <:+: [] :=
  fun inside => tag.ne_nil (List.infix_nil.mp inside)

/-- Without an angle bracket there is no tag. -/
theorem not_infix {text : List Char} (closed : '<' ∉ text) :
    ¬ pattern <:+: text :=
  fun inside => closed (inside.subset (List.mem_of_head? tag.opens))

theorem infix_cons_iff {joint : Char} (joins : isJoint joint = true)
    (rest : List Char) : pattern <:+: joint :: rest ↔ pattern <:+: rest := by
  have cut := infix_append_cons_iff (tag.fresh joins) [] rest
  rw [List.nil_append] at cut
  rw [cut, or_iff_right tag.not_infix_nil]

theorem infix_concat_iff {joint : Char} (joins : isJoint joint = true)
    (lead : List Char) : pattern <:+: lead ++ [joint] ↔ pattern <:+: lead := by
  rw [infix_append_cons_iff (tag.fresh joins) lead [],
    or_iff_left tag.not_infix_nil]

theorem infix_gap_iff {gap : List Char}
    (blank : ∀ character ∈ gap, isJoint character = true)
    (rest : List Char) : pattern <:+: gap ++ rest ↔ pattern <:+: rest := by
  induction gap with
  | nil => rfl
  | cons character gap induction =>
      obtain ⟨here, later⟩ := List.forall_mem_cons.mp blank
      rw [List.cons_append, tag.infix_cons_iff here, induction later]

theorem infix_separated_iff {gap : List Char}
    (blank : ∀ character ∈ gap, isJoint character = true)
    (items : List (List Char)) :
    pattern <:+: separated gap items ↔ ∃ item ∈ items, pattern <:+: item := by
  induction items with
  | nil => simp [separated, tag.ne_nil]
  | cons first rest induction =>
      cases rest with
      | nil => simp [separated]
      | cons second rest =>
          rw [separated_cons_cons, infix_append_cons_iff (tag.fresh rfl),
            tag.infix_gap_iff blank, induction,
            List.exists_mem_cons_iff _ first]

/-- Escaping neither makes a tag nor breaks one. -/
theorem infix_quoted_iff (text : String) :
    pattern <:+: quoted text ↔ pattern <:+: text.toList := by
  have escapes : EscapesFrom '\\' pattern escapeChar := by
    intro character
    rcases escapeChar_cases character with same | ⟨tail, same, closed⟩
    · exact .inl same
    · right
      rw [same, tag.opens]
      refine ⟨rfl, ?_⟩
      rintro other member ⟨rfl⟩
      rcases List.mem_cons.mp member with backslash | inTail
      · cases backslash
      · exact closed inTail
  have kept : pattern.flatMap escapeChar = pattern := by
    have single : ∀ character ∈ pattern,
        escapeChar character = [character] := fun character member =>
      escapeChar_plain (tag.plain character member)
        (tag.printable character member)
    rw [List.flatMap_congr single, List.flatMap_singleton']
  rw [quoted, tag.infix_concat_iff rfl, List.singleton_append,
    tag.infix_cons_iff rfl, escape,
    infix_flatMap_iff tag.ne_nil (tag.fresh rfl) escapes kept]

theorem not_infix_number {text : List Char}
    (numeric : ∀ character ∈ text, isNumeric character) :
    ¬ pattern <:+: text := by
  refine tag.not_infix fun member => ?_
  have bracket := numeric '<' member
  revert bracket
  decide

theorem not_infix_float (floats : FloatText) (value : PyFloat) :
    ¬ pattern <:+: floatDump floats value := by
  cases value with
  | finite value => exact tag.not_infix_number (floats.numeric value)
  | infinity | negativeInfinity | nan =>
      rw [floatDump]
      exact tag.not_infix (by decide)

end IsTag

namespace Json

variable {floats : FloatText} {gap pattern : List Char}

mutual

/-- A tag stands in a text where it stands in a string. -/
theorem infix_laidOut_iff (tag : IsTag pattern)
    (blank : ∀ character ∈ gap, isJoint character = true) :
    ∀ value : Json, pattern <:+: laidOut gap floats value ↔
      ∃ text ∈ value.strings, pattern <:+: text.toList
  | .null => by
      simp [laidOut, strings, tag.not_infix]
  | .bool true => by
      simp [laidOut, strings, tag.not_infix]
  | .bool false => by
      simp [laidOut, strings, tag.not_infix]
  | .int value => by
      rw [laidOut, iff_false_left
        (tag.not_infix_number (intText_numeric value))]
      rintro ⟨text, member, -⟩
      cases member
  | .float value => by
      simp [laidOut, strings, tag.not_infix_float]
  | .str value => by
      simp [laidOut, strings, tag.infix_quoted_iff]
  | .array items => by
      rw [laidOut_array, tag.infix_cons_iff rfl, tag.infix_concat_iff rfl,
        tag.infix_separated_iff blank]
      simp only [List.mem_map, exists_exists_and_eq_and]
      exact infix_itemLayouts_iff tag blank items
  | .object entries => by
      rw [laidOut_object, tag.infix_cons_iff rfl, tag.infix_concat_iff rfl,
        tag.infix_separated_iff blank]
      simp only [List.mem_map, exists_exists_and_eq_and]
      exact infix_entryLayouts_iff tag blank entries

theorem infix_itemLayouts_iff (tag : IsTag pattern)
    (blank : ∀ character ∈ gap, isJoint character = true) :
    ∀ items : List Json,
      (∃ item ∈ items, pattern <:+: laidOut gap floats item) ↔
        ∃ text ∈ itemStrings items, pattern <:+: text.toList
  | [] => by simp [itemStrings]
  | item :: rest => by
      rw [List.exists_mem_cons_iff, infix_laidOut_iff tag blank item,
        infix_itemLayouts_iff tag blank rest, itemStrings]
      simp only [List.mem_append, or_and_right, exists_or]

theorem infix_entryLayouts_iff (tag : IsTag pattern)
    (blank : ∀ character ∈ gap, isJoint character = true) :
    ∀ entries : List (String × Json),
      (∃ entry ∈ entries, pattern <:+: entryLayout gap floats entry) ↔
        ∃ text ∈ entryStrings entries, pattern <:+: text.toList
  | [] => by simp [entryStrings]
  | (key, value) :: rest => by
      rw [List.exists_mem_cons_iff, infix_entryLayouts_iff tag blank rest,
        entryLayout, infix_append_cons_iff (tag.fresh rfl),
        tag.infix_quoted_iff, tag.infix_gap_iff blank,
        infix_laidOut_iff tag blank value, entryStrings, List.cons_append,
        List.exists_mem_cons_iff]
      simp only [List.mem_append, or_and_right, exists_or, or_assoc]

end

/-- The texts of `json.dumps`, with and without sorted keys. -/
theorem infix_text_iff (tag : IsTag pattern) {value : Json}
    (compliant : value.isCompliant = true) :
    pattern <:+: Json.text floats value ↔
      ∃ text ∈ value.strings, pattern <:+: text.toList := by
  rw [JsonReader.text_eq_laidOut value compliant,
    infix_laidOut_iff tag (List.forall_mem_nil _)]
  simp only [(strings_sorted value).mem_iff]

theorem infix_dumps_sorted_iff (tag : IsTag pattern) (value : Json) :
    pattern <:+: dumps floats value.sorted ↔
      ∃ text ∈ value.strings, pattern <:+: text.toList := by
  have blank : ∀ character ∈ [' '], isJoint character = true :=
    List.forall_mem_singleton.mpr rfl
  rw [dumps_eq, infix_laidOut_iff tag blank]
  simp only [(strings_sorted value).mem_iff]

end Json

end RagBench
