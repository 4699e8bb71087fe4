import Mathlib.Data.List.Basic

/-!
# Lines of a text

`str.splitlines` ends a line at more characters than at `\n`.
-/

namespace RagBench

/-- A line of `str.splitlines` ends here; `\r\n` ends it once. -/
def isLineBreak (character : Char) : Bool :=
  character.toNat ∈
    [0x0a, 0x0b, 0x0c, 0x0d, 0x1c, 0x1d, 0x1e, 0x85, 0x2028, 0x2029]

/-- `text.splitlines()`. -/
def splitTextLines : List Char → List (List Char)
  | [] => []
  | '\r' :: '\n' :: rest => [] :: splitTextLines rest
  | character :: rest =>
      if isLineBreak character then [] :: splitTextLines rest
      else
        match splitTextLines rest with
        | [] => [[character]]
        | line :: lines => (character :: line) :: lines

/-- `text.splitlines()` without its empty lines. -/
def writtenLines (text : List Char) : List (List Char) :=
  (splitTextLines text).filter fun line => line ≠ []

def Unbroken (line : List Char) : Prop :=
  ∀ character ∈ line, isLineBreak character = false

/-! ## One character -/

theorem splitTextLines_cons {character : Char}
    (unbroken : isLineBreak character = false) (rest : List Char) :
    splitTextLines (character :: rest) =
      match splitTextLines rest with
      | [] => [[character]]
      | line :: lines => (character :: line) :: lines := by
  rw [splitTextLines, if_neg (by simp [unbroken])]
  rintro tail rfl _
  cases unbroken

theorem splitTextLines_break {character : Char}
    (ends : isLineBreak character = true) (single : character ≠ '\r')
    (rest : List Char) :
    splitTextLines (character :: rest) = [] :: splitTextLines rest := by
  rw [splitTextLines, if_pos ends]
  rintro tail rfl _
  exact single rfl

theorem splitTextLines_ne_nil {text : List Char} (filled : text ≠ []) :
    splitTextLines text ≠ [] := by
  unfold splitTextLines
  split
  · exact absurd rfl filled
  · exact List.cons_ne_nil _ _
  · split
    · exact List.cons_ne_nil _ _
    · split <;> exact List.cons_ne_nil _ _

/-! ## One line -/

/-- A line ends at the first break. -/
theorem splitTextLines_append_break {line : List Char}
    (unbroken : Unbroken line) {character : Char}
    (ends : isLineBreak character = true) (single : character ≠ '\r')
    (rest : List Char) :
    splitTextLines (line ++ character :: rest) =
      line :: splitTextLines rest := by
  induction line with
  | nil => exact splitTextLines_break ends single rest
  | cons first line induction =>
      obtain ⟨here, later⟩ := List.forall_mem_cons.mp unbroken
      rw [List.cons_append, splitTextLines_cons here, induction later]

/-- Texts that end with `\n` are split one by one. -/
theorem splitTextLines_append {text : List Char} (plain : '\r' ∉ text)
    (rest : List Char) :
    splitTextLines (text ++ '\n' :: rest) =
      splitTextLines (text ++ ['\n']) ++ splitTextLines rest := by
  induction text with
  | nil =>
      rw [List.nil_append, List.nil_append,
        splitTextLines_break rfl (by decide),
        splitTextLines_break rfl (by decide)]
      rfl
  | cons first text induction =>
      rw [List.mem_cons, not_or] at plain
      rw [List.cons_append, List.cons_append]
      cases ends : isLineBreak first with
      | true =>
          rw [splitTextLines_break ends (Ne.symm plain.1),
            splitTextLines_break ends (Ne.symm plain.1), induction plain.2]
          rfl
      | false =>
          rw [splitTextLines_cons ends, splitTextLines_cons ends,
            induction plain.2]
          cases split : splitTextLines (text ++ ['\n']) with
          | nil => exact absurd split (splitTextLines_ne_nil (by simp))
          | cons line lines => rfl

/-- A character that is no break stands in a line. -/
theorem writtenLines_ne_nil {text : List Char} {character : Char}
    (member : character ∈ text) (unbroken : isLineBreak character = false) :
    writtenLines text ≠ [] := by
  suffices found : ∃ line ∈ splitTextLines text, character ∈ line by
    obtain ⟨line, listed, inside⟩ := found
    exact List.ne_nil_of_mem (List.mem_filter.mpr
      ⟨listed, decide_eq_true (List.ne_nil_of_mem inside)⟩)
  induction text using splitTextLines.induct with
  | case1 => cases member
  | case2 rest induction =>
      rcases List.mem_cons.mp member with rfl | member
      · cases unbroken
      rcases List.mem_cons.mp member with rfl | member
      · cases unbroken
      obtain ⟨line, listed, inside⟩ := induction member
      rw [splitTextLines]
      exact ⟨line, List.mem_cons_of_mem _ listed, inside⟩
  | case3 first rest other ends induction =>
      rcases List.mem_cons.mp member with rfl | member
      · rw [unbroken] at ends
        cases ends
      obtain ⟨line, listed, inside⟩ := induction member
      rw [splitTextLines, if_pos ends]
      · exact ⟨line, List.mem_cons_of_mem _ listed, inside⟩
      · exact other
  | case4 first rest _ plain none induction =>
      rw [splitTextLines_cons (Bool.not_eq_true _ ▸ plain), none]
      rcases List.mem_cons.mp member with rfl | member
      · exact ⟨_, List.mem_singleton_self _, List.mem_singleton_self _⟩
      · exact absurd none (splitTextLines_ne_nil (List.ne_nil_of_mem member))
  | case5 first rest _ plain line lines split induction =>
      rw [splitTextLines_cons (Bool.not_eq_true _ ▸ plain), split]
      rcases List.mem_cons.mp member with rfl | member
      · exact ⟨_, List.mem_cons_self, List.mem_cons_self⟩
      obtain ⟨other, listed, inside⟩ := induction member
      rw [split] at listed
      rcases List.mem_cons.mp listed with rfl | later
      · exact ⟨_, List.mem_cons_self, List.mem_cons_of_mem _ inside⟩
      · exact ⟨other, List.mem_cons_of_mem _ later, inside⟩

/-! ## A text that was written as one line -/

/-- A line without breaks is read as it was written. -/
theorem writtenLines_of_unbroken {line : List Char} (filled : line ≠ [])
    (unbroken : Unbroken line) : writtenLines (line ++ ['\n']) = [line] := by
  rw [writtenLines, splitTextLines_append_break unbroken rfl (by decide),
    List.filter_cons_of_pos (by simpa using filled)]
  rfl

/-- A break inside makes two lines or more. -/
theorem two_le_writtenLines {line : List Char}
    (noReturn : '\r' ∉ line) (opens : ∀ character ∈ line.head?,
      isLineBreak character = false)
    (closes : ∀ character ∈ line.getLast?, isLineBreak character = false)
    (broken : ¬Unbroken line) : 2 ≤ (writtenLines (line ++ ['\n'])).length := by
  obtain ⟨before, character, after, rfl, early, ends⟩ :
      ∃ before character after, line = before ++ character :: after ∧
        Unbroken before ∧ isLineBreak character = true := by
    clear noReturn opens closes
    induction line with
    | nil => exact absurd (List.forall_mem_nil _) broken
    | cons first line induction =>
        cases ends : isLineBreak first with
        | true => exact ⟨[], first, line, rfl, List.forall_mem_nil _, ends⟩
        | false =>
            obtain ⟨before, character, after, rfl, early, ends'⟩ :=
              induction fun unbroken =>
                broken (List.forall_mem_cons.mpr ⟨ends, unbroken⟩)
            exact ⟨first :: before, character, after, rfl,
              List.forall_mem_cons.mpr ⟨ends, early⟩, ends'⟩
  have single : character ≠ '\r' := by
    rintro rfl
    simp at noReturn
  have filled : before ≠ [] := by
    rintro rfl
    have same := opens character rfl
    rw [ends] at same
    cases same
  obtain ⟨last, lastOf⟩ : ∃ last, after.getLast? = some last := by
    cases after with
    | nil =>
        have same := closes character (by simp)
        rw [ends] at same
        cases same
    | cons first rest => exact ⟨_, List.getLast?_eq_some_getLast (by simp)⟩
  have later : writtenLines (after ++ ['\n']) ≠ [] := by
    refine writtenLines_ne_nil (List.mem_append_left _
      (List.mem_of_getLast? lastOf)) (closes last ?_)
    rw [List.getLast?_append, List.getLast?_cons, lastOf]
    rfl
  have lines : writtenLines ((before ++ character :: after) ++ ['\n']) =
      before :: writtenLines (after ++ ['\n']) := by
    rw [List.append_assoc, List.cons_append, writtenLines,
      splitTextLines_append_break early ends single,
      List.filter_cons_of_pos (by simpa using filled)]
    rfl
  have positive := List.length_pos_of_ne_nil later
  rw [lines, List.length_cons]
  omega

/-! ## Texts that were written one to a line -/

theorem writtenLines_flatMap {lines : List (List Char)}
    (noReturn : ∀ line ∈ lines, '\r' ∉ line) :
    writtenLines (lines.flatMap fun line => line ++ ['\n']) =
      lines.flatMap fun line => writtenLines (line ++ ['\n']) := by
  induction lines with
  | nil => rfl
  | cons line lines induction =>
      obtain ⟨here, later⟩ := List.forall_mem_cons.mp noReturn
      rw [List.flatMap_cons, List.append_assoc, List.singleton_append,
        writtenLines, splitTextLines_append here, List.filter_append,
        List.flatMap_cons, ← induction later]
      rfl

/-- Texts without breaks are the lines of all of them. -/
theorem writtenLines_of_all_unbroken {lines : List (List Char)}
    (filled : ∀ line ∈ lines, line ≠ [])
    (unbroken : ∀ line ∈ lines, Unbroken line) :
    writtenLines (lines.flatMap fun line => line ++ ['\n']) = lines := by
  have noReturn : ∀ line ∈ lines, '\r' ∉ line := fun line member inside =>
    nomatch unbroken line member '\r' inside
  have same : ∀ line ∈ lines, writtenLines (line ++ ['\n']) = [line] :=
    fun line member =>
      writtenLines_of_unbroken (filled line member) (unbroken line member)
  rw [writtenLines_flatMap noReturn, List.flatMap_congr same,
    List.flatMap_singleton']

/-- There are more lines than texts when a text has a break. -/
theorem unbroken_of_length_writtenLines {lines : List (List Char)}
    (noReturn : ∀ line ∈ lines, '\r' ∉ line)
    (filled : ∀ line ∈ lines, line ≠ [])
    (opens : ∀ line ∈ lines, ∀ character ∈ line.head?,
      isLineBreak character = false)
    (closes : ∀ line ∈ lines, ∀ character ∈ line.getLast?,
      isLineBreak character = false)
    (length : (writtenLines
      (lines.flatMap fun line => line ++ ['\n'])).length = lines.length) :
    ∀ line ∈ lines, Unbroken line := by
  rw [writtenLines_flatMap noReturn] at length
  suffices least : lines.length ≤
      (lines.flatMap fun line => writtenLines (line ++ ['\n'])).length ∧
      ((lines.flatMap fun line => writtenLines (line ++ ['\n'])).length =
        lines.length → ∀ line ∈ lines, Unbroken line) from least.2 length
  clear length
  induction lines with
  | nil => exact ⟨Nat.le_refl _, fun _ => List.forall_mem_nil _⟩
  | cons line lines induction =>
      rw [List.forall_mem_cons] at noReturn filled opens closes
      obtain ⟨atLeast, equal⟩ :=
        induction noReturn.2 filled.2 opens.2 closes.2
      rw [List.flatMap_cons, List.length_append, List.length_cons,
        List.forall_mem_cons]
      by_cases unbroken : Unbroken line
      · rw [writtenLines_of_unbroken filled.1 unbroken, List.length_singleton]
        exact ⟨by omega, fun same => ⟨unbroken, equal (by omega)⟩⟩
      · have two := two_le_writtenLines noReturn.1 opens.1 closes.1 unbroken
        exact ⟨by omega, fun same => absurd same (by omega)⟩

end RagBench
