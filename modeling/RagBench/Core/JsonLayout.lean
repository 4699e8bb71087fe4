import RagBench.Core.JsonDumps

/-!
# Layouts of JSON texts

`json.dumps` writes the same tokens with and without spaces behind commas and
colons.  The strings stand in the text with their characters, but for those
that are escaped.
-/

namespace RagBench

/-- Items behind each other, with a comma and a gap between them. -/
def separated (gap : List Char) : List (List Char) → List Char
  | [] => []
  | item :: rest => item ++ rest.flatMap fun other => ',' :: (gap ++ other)

theorem separated_cons_cons (gap first second : List Char)
    (rest : List (List Char)) :
    separated gap (first :: second :: rest) =
      first ++ ',' :: (gap ++ separated gap (second :: rest)) := by
  simp [separated]

theorem commas_eq (items : List (List Char)) :
    commas items = separated [] items := by
  cases items <;> rfl

theorem spacedCommas_eq (items : List (List Char)) :
    spacedCommas items = separated [' '] items := by
  unfold spacedCommas
  induction items with
  | nil => rfl
  | cons first rest induction =>
      cases rest with
      | nil => simp [separated]
      | cons second rest =>
          rw [separated_cons_cons, ← induction]
          simp [List.intercalate]

namespace Json

variable {floats : FloatText} {gap : List Char}

mutual

/-- The text of a value in the order of its entries. -/
def laidOut (gap : List Char) (floats : FloatText) : Json → List Char
  | .null => ['n', 'u', 'l', 'l']
  | .bool true => ['t', 'r', 'u', 'e']
  | .bool false => ['f', 'a', 'l', 's', 'e']
  | .int value => (toString value).toList
  | .float value => floatDump floats value
  | .str value => quoted value
  | .array items => '[' :: (separated gap (itemLayouts gap floats items) ++ [']'])
  | .object entries =>
      '{' :: (separated gap (entryLayouts gap floats entries) ++ ['}'])

def itemLayouts (gap : List Char) (floats : FloatText) :
    List Json → List (List Char)
  | [] => []
  | item :: rest => laidOut gap floats item :: itemLayouts gap floats rest

def entryLayouts (gap : List Char) (floats : FloatText) :
    List (String × Json) → List (List Char)
  | [] => []
  | (key, value) :: rest =>
      (quoted key ++ ':' :: (gap ++ laidOut gap floats value)) ::
        entryLayouts gap floats rest

end

def entryLayout (gap : List Char) (floats : FloatText)
    (entry : String × Json) : List Char :=
  quoted entry.1 ++ ':' :: (gap ++ laidOut gap floats entry.2)

theorem itemLayouts_eq (items : List Json) :
    itemLayouts gap floats items = items.map (laidOut gap floats) := by
  induction items with
  | nil => rfl
  | cons item rest induction => rw [itemLayouts, induction, List.map_cons]

theorem entryLayouts_eq (entries : List (String × Json)) :
    entryLayouts gap floats entries =
      entries.map (entryLayout gap floats) := by
  induction entries with
  | nil => rfl
  | cons entry rest induction =>
      rw [entryLayouts, induction, List.map_cons]
      rfl

theorem laidOut_array (items : List Json) :
    laidOut gap floats (.array items) =
      '[' :: (separated gap (items.map (laidOut gap floats)) ++ [']']) := by
  rw [laidOut, itemLayouts_eq]

theorem laidOut_object (entries : List (String × Json)) :
    laidOut gap floats (.object entries) =
      '{' :: (separated gap (entries.map (entryLayout gap floats)) ++
        ['}']) := by
  rw [laidOut, entryLayouts_eq]

/-! ## The two layouts of `json.dumps` -/

mutual

theorem dumps_eq : ∀ value : Json,
    dumps floats value = laidOut [' '] floats value
  | .null => rfl
  | .bool true => rfl
  | .bool false => rfl
  | .int _ => rfl
  | .float _ => rfl
  | .str _ => rfl
  | .array items => by
      rw [dumps, laidOut, spacedCommas_eq, itemDumps_eq items]
      rfl
  | .object entries => by
      rw [dumps, laidOut, spacedCommas_eq, entryDumps_eq entries]
      rfl

theorem itemDumps_eq : ∀ items : List Json,
    itemDumps floats items = itemLayouts [' '] floats items
  | [] => rfl
  | item :: rest => by
      rw [itemDumps, itemLayouts, dumps_eq item, itemDumps_eq rest]

theorem entryDumps_eq : ∀ entries : List (String × Json),
    entryDumps floats entries = entryLayouts [' '] floats entries
  | [] => rfl
  | (key, value) :: rest => by
      rw [entryDumps, entryLayouts, dumps_eq value, entryDumps_eq rest]
      simp

end

/-! ## The characters of a layout -/

mutual

/-- The strings of a value, with the keys of its dictionaries. -/
def strings : Json → List String
  | .str value => [value]
  | .array items => itemStrings items
  | .object entries => entryStrings entries
  | _ => []

def itemStrings : List Json → List String
  | [] => []
  | item :: rest => strings item ++ itemStrings rest

def entryStrings : List (String × Json) → List String
  | [] => []
  | (key, value) :: rest => key :: strings value ++ entryStrings rest

end

theorem entryStrings_eq (entries : List (String × Json)) :
    entryStrings entries =
      entries.flatMap fun entry => entry.1 :: strings entry.2 := by
  induction entries with
  | nil => rfl
  | cons entry rest induction =>
      rw [entryStrings, induction, List.flatMap_cons]

/-- What holds of a printable ASCII character. -/
def OnAscii (holds : Char → Prop) : Prop :=
  ∀ character : Char, 32 ≤ character.toNat → character.toNat < 127 →
    holds character

theorem OnAscii.numeric {holds : Char → Prop} (plain : OnAscii holds)
    {text : List Char} (numeric : ∀ character ∈ text, isNumeric character) :
    ∀ character ∈ text, holds character := by
  intro character member
  have kind := numeric character member
  simp only [isNumeric, Bool.or_eq_true, Char.isDigit, decide_eq_true_eq,
    List.mem_cons, List.not_mem_nil, or_false, Bool.and_eq_true] at kind
  rcases kind with ⟨low, high⟩ | rfl | rfl | rfl | rfl
  · have low' : 48 ≤ character.toNat := low
    have high' : character.toNat ≤ 57 := high
    exact plain character (by omega) (by omega)
  all_goals exact plain _ (by decide) (by decide)

theorem OnAscii.floatDump {holds : Char → Prop} (plain : OnAscii holds)
    (value : PyFloat) :
    ∀ character ∈ floatDump floats value, holds character := by
  have word (text : List Char) (ascii : text.all fun character =>
      32 ≤ character.toNat && character.toNat < 127) :
      ∀ character ∈ text, holds character := by
    intro character member
    have bounds := List.all_eq_true.mp ascii character member
    simp only [Bool.and_eq_true, decide_eq_true_eq] at bounds
    exact plain character bounds.1 bounds.2
  cases value with
  | finite value => exact plain.numeric (floats.numeric value)
  | infinity => exact word _ rfl
  | negativeInfinity => exact word _ rfl
  | nan => exact word _ rfl

theorem forall_separated {holds : Char → Prop} (comma : holds ',')
    (blank : ∀ character ∈ gap, holds character) {items : List (List Char)}
    (each : ∀ item ∈ items, ∀ character ∈ item, holds character) :
    ∀ character ∈ separated gap items, holds character := by
  cases items with
  | nil => exact List.forall_mem_nil _
  | cons item items =>
      rw [List.forall_mem_cons] at each
      refine List.forall_mem_append.mpr ⟨each.1, fun character member => ?_⟩
      obtain ⟨other, inside, member⟩ := List.mem_flatMap.mp member
      rcases List.mem_cons.mp member with rfl | member
      · exact comma
      rcases List.mem_append.mp member with early | late
      · exact blank character early
      · exact each.2 other inside character late

mutual

/-- What holds of plain characters, of the gap and of the written strings holds
of the whole text. -/
theorem forall_laidOut {holds : Char → Prop} (plain : OnAscii holds)
    (blank : ∀ character ∈ gap, holds character) : ∀ value : Json,
    (∀ text ∈ value.strings, ∀ character ∈ quoted text, holds character) →
      ∀ character ∈ laidOut gap floats value, holds character
  | .null, _ => by
      simp only [laidOut, List.forall_mem_cons]
      exact ⟨plain _ (by decide) (by decide), plain _ (by decide) (by decide),
        plain _ (by decide) (by decide), plain _ (by decide) (by decide),
        List.forall_mem_nil _⟩
  | .bool true, _ => by
      simp only [laidOut, List.forall_mem_cons]
      exact ⟨plain _ (by decide) (by decide), plain _ (by decide) (by decide),
        plain _ (by decide) (by decide), plain _ (by decide) (by decide),
        List.forall_mem_nil _⟩
  | .bool false, _ => by
      simp only [laidOut, List.forall_mem_cons]
      exact ⟨plain _ (by decide) (by decide), plain _ (by decide) (by decide),
        plain _ (by decide) (by decide), plain _ (by decide) (by decide),
        plain _ (by decide) (by decide), List.forall_mem_nil _⟩
  | .int value, _ => plain.numeric (intText_numeric value)
  | .float value, _ => plain.floatDump value
  | .str value, written => written value List.mem_cons_self
  | .array items, written => by
      rw [laidOut_array]
      refine List.forall_mem_cons.mpr ⟨plain _ (by decide) (by decide),
        List.forall_mem_append.mpr ⟨forall_separated
          (plain _ (by decide) (by decide)) blank ?_,
          List.forall_mem_singleton.mpr (plain _ (by decide) (by decide))⟩⟩
      exact List.forall_mem_map.mpr (forall_itemLayouts plain blank items written)
  | .object entries, written => by
      rw [laidOut_object]
      refine List.forall_mem_cons.mpr ⟨plain _ (by decide) (by decide),
        List.forall_mem_append.mpr ⟨forall_separated
          (plain _ (by decide) (by decide)) blank ?_,
          List.forall_mem_singleton.mpr (plain _ (by decide) (by decide))⟩⟩
      exact List.forall_mem_map.mpr
        (forall_entryLayouts plain blank entries written)

theorem forall_itemLayouts {holds : Char → Prop} (plain : OnAscii holds)
    (blank : ∀ character ∈ gap, holds character) : ∀ items : List Json,
    (∀ text ∈ itemStrings items, ∀ character ∈ quoted text,
      holds character) →
      ∀ item ∈ items, ∀ character ∈ laidOut gap floats item, holds character
  | [], _ => List.forall_mem_nil _
  | item :: rest, written => by
      obtain ⟨here, later⟩ := List.forall_mem_append.mp written
      exact List.forall_mem_cons.mpr ⟨forall_laidOut plain blank item here,
        forall_itemLayouts plain blank rest later⟩

theorem forall_entryLayouts {holds : Char → Prop} (plain : OnAscii holds)
    (blank : ∀ character ∈ gap, holds character) :
    ∀ entries : List (String × Json),
    (∀ text ∈ entryStrings entries, ∀ character ∈ quoted text,
      holds character) →
      ∀ entry ∈ entries, ∀ character ∈ entryLayout gap floats entry,
        holds character
  | [], _ => List.forall_mem_nil _
  | (key, value) :: rest, written => by
      obtain ⟨here, later⟩ := List.forall_mem_append.mp written
      obtain ⟨ofKey, ofValue⟩ := List.forall_mem_cons.mp here
      refine List.forall_mem_cons.mpr ⟨?_,
        forall_entryLayouts plain blank rest later⟩
      refine List.forall_mem_append.mpr ⟨ofKey, List.forall_mem_cons.mpr
        ⟨plain _ (by decide) (by decide), List.forall_mem_append.mpr
          ⟨blank, forall_laidOut plain blank value ofValue⟩⟩⟩

end

theorem subset_separated {items : List (List Char)} {item : List Char}
    (member : item ∈ items) : item ⊆ separated gap items := by
  cases items with
  | nil => cases member
  | cons first items =>
      rcases List.mem_cons.mp member with rfl | later
      · exact List.subset_append_left _ _
      · intro character inside
        refine List.mem_append_right _ (List.mem_flatMap.mpr
          ⟨item, later, List.mem_cons_of_mem _ ?_⟩)
        exact List.mem_append_right _ inside

mutual

/-- Every string is written. -/
theorem quoted_subset : ∀ value : Json, ∀ text ∈ value.strings,
    quoted text ⊆ laidOut gap floats value
  | .null, _, member => nomatch member
  | .bool _, _, member => nomatch member
  | .int _, _, member => nomatch member
  | .float _, _, member => nomatch member
  | .str value, text, member => by
      rw [List.mem_singleton.mp member, laidOut]
      exact List.Subset.refl _
  | .array items, text, member => by
      obtain ⟨item, inItems, inside⟩ := quoted_subset_item items text member
      rw [laidOut_array]
      refine fun character written => List.mem_cons_of_mem _
        (List.mem_append_left _ (subset_separated
          (List.mem_map_of_mem inItems) (inside written)))
  | .object entries, text, member => by
      obtain ⟨entry, inEntries, inside⟩ :=
        quoted_subset_entry entries text member
      rw [laidOut_object]
      refine fun character written => List.mem_cons_of_mem _
        (List.mem_append_left _ (subset_separated
          (List.mem_map_of_mem inEntries) (inside written)))

theorem quoted_subset_item : ∀ items : List Json, ∀ text ∈ itemStrings items,
    ∃ item ∈ items, quoted text ⊆ laidOut gap floats item
  | [], _, member => nomatch member
  | item :: rest, text, member => by
      rcases List.mem_append.mp member with here | later
      · exact ⟨item, List.mem_cons_self, quoted_subset item text here⟩
      · obtain ⟨other, inRest, inside⟩ := quoted_subset_item rest text later
        exact ⟨other, List.mem_cons_of_mem _ inRest, inside⟩

theorem quoted_subset_entry : ∀ entries : List (String × Json),
    ∀ text ∈ entryStrings entries,
      ∃ entry ∈ entries, quoted text ⊆ entryLayout gap floats entry
  | [], _, member => nomatch member
  | (key, value) :: rest, text, member => by
      rcases List.mem_append.mp member with here | later
      · refine ⟨(key, value), List.mem_cons_self, ?_⟩
        rcases List.mem_cons.mp here with rfl | inValue
        · exact List.subset_append_left _ _
        · exact fun character written => List.mem_append_right _
            (List.mem_cons_of_mem _ (List.mem_append_right _
              (quoted_subset value text inValue written)))
      · obtain ⟨other, inRest, inside⟩ := quoted_subset_entry rest text later
        exact ⟨other, List.mem_cons_of_mem _ inRest, inside⟩

end

/-- A string is written with its characters or with printable ASCII. -/
theorem mem_escapeChar {source character : Char}
    (member : character ∈ escapeChar source) :
    character = source ∧ 32 ≤ character.toNat ∨
      32 ≤ character.toNat ∧ character.toNat < 127 := by
  have hexadecimal : ∀ digit < 16, 32 ≤ (Nat.digitChar digit).toNat ∧
      (Nat.digitChar digit).toNat < 127 := by
    decide
  unfold escapeChar at member
  split_ifs at member with quote backslash newline feed tab form back control
  pick_goal 9
  · exact .inl ⟨List.mem_singleton.mp member,
      List.mem_singleton.mp member ▸ not_lt.mp control⟩
  all_goals
    right
    simp only [List.mem_cons, List.not_mem_nil, or_false] at member
  pick_goal 8
  · rcases member with rfl | rfl | rfl | rfl | rfl | rfl
    · decide
    · decide
    · decide
    · decide
    · exact hexadecimal _ (by omega)
    · exact hexadecimal _ (by omega)
  all_goals
    rcases member with rfl | rfl
    all_goals decide

theorem mem_quoted {text : String} {character : Char}
    (member : character ∈ quoted text) :
    character ∈ text.toList ∧ 32 ≤ character.toNat ∨
      32 ≤ character.toNat ∧ character.toNat < 127 := by
  rw [quoted, List.mem_append, List.mem_append] at member
  rcases member with (quote | inside) | quote
  · rw [List.mem_singleton.mp quote]
    exact .inr (by decide)
  · obtain ⟨source, inText, member⟩ := List.mem_flatMap.mp inside
    rcases mem_escapeChar member with ⟨rfl, printable⟩ | ascii
    · exact .inl ⟨inText, printable⟩
    · exact .inr ascii
  · rw [List.mem_singleton.mp quote]
    exact .inr (by decide)

/-- A character that is no printable ASCII stands in a text when it stands in
one of the strings. -/
theorem mem_laidOut_iff {value : Json} {character : Char}
    (wide : 127 ≤ character.toNat) (blank : character ∉ gap) :
    character ∈ laidOut gap floats value ↔
      ∃ text ∈ value.strings, character ∈ text.toList := by
  constructor
  · contrapose!
    intro absent
    have others : ∀ other ∈ laidOut gap floats value, other ≠ character := by
      refine forall_laidOut ?_ ?_ value ?_
      · rintro other _ small rfl
        omega
      · rintro other inGap rfl
        exact blank inGap
      · rintro text written other member rfl
        rcases mem_quoted member with ⟨inText, -⟩ | ⟨-, small⟩
        · exact absent text written inText
        · omega
    exact fun member => others character member rfl
  · rintro ⟨text, written, inText⟩
    refine quoted_subset value text written (List.mem_append_left _
      (List.mem_append_right _ (List.mem_flatMap.mpr
        ⟨character, inText, ?_⟩)))
    have plain : escapeChar character = [character] := by
      unfold escapeChar
      rw [if_neg, if_neg, if_neg, if_neg, if_neg, if_neg, if_neg, if_neg]
      · omega
      all_goals
        rintro rfl
        exact absurd wide (by decide)
    rw [plain]
    exact List.mem_singleton_self _

/-- Control characters are escaped. -/
theorem printable_laidOut {value : Json}
    (blank : ∀ character ∈ gap, 32 ≤ character.toNat) :
    ∀ character ∈ laidOut gap floats value, 32 ≤ character.toNat := by
  refine forall_laidOut (fun _ printable _ => printable) blank value ?_
  intro text _ character member
  rcases mem_quoted member with ⟨-, printable⟩ | ⟨printable, -⟩
  · exact printable
  · exact printable

end Json

end RagBench
