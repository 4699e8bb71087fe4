import RagBench.Core.JsonText
import RagBench.Utf8

/-!
# Lines of JSON

A JSON text has no line break of its own: control characters are escaped.  So
texts that were written one to a line are the lines of what was written.
-/

namespace RagBench

/-! ## Lines of bytes -/

/-- `payload.splitlines()` on bytes: a line ends at `\n`, `\r` or `\r\n`. -/
def splitLines : List UInt8 → List (List UInt8)
  | [] => []
  | 13 :: 10 :: rest => [] :: splitLines rest
  | byte :: rest =>
      if byte = 10 ∨ byte = 13 then [] :: splitLines rest
      else
        match splitLines rest with
        | [] => [[byte]]
        | line :: lines => (byte :: line) :: lines

/-- The spaces that `bytes.strip` removes. -/
def isByteSpace (byte : UInt8) : Bool :=
  byte ∈ [9, 10, 11, 12, 13, 32]

/-- `bool(line.strip())`. -/
def isWritten (line : List UInt8) : Bool :=
  line.any fun byte => !isByteSpace byte

def IsLine (line : List UInt8) : Prop :=
  ∀ byte ∈ line, byte ≠ 10 ∧ byte ≠ 13

theorem splitLines_append {line : List UInt8} (isLine : IsLine line)
    (rest : List UInt8) :
    splitLines (line ++ 10 :: rest) = line :: splitLines rest := by
  induction line with
  | nil => rw [List.nil_append, splitLines.eq_def]; simp
  | cons byte line induction =>
      have first := isLine byte (by simp)
      have others := induction fun other member =>
        isLine other (List.mem_cons_of_mem _ member)
      rw [List.cons_append, splitLines, others,
        if_neg (not_or.mpr ⟨first.1, first.2⟩)]
      intro _ same
      exact absurd same first.2

/-- Texts that were ended by line breaks are the lines of all of them. -/
theorem splitLines_flatMap {lines : List (List UInt8)}
    (areLines : ∀ line ∈ lines, IsLine line) :
    splitLines (lines.flatMap fun line => line ++ [10]) = lines := by
  induction lines with
  | nil => rfl
  | cons line lines induction =>
      rw [List.forall_mem_cons] at areLines
      rw [List.flatMap_cons, List.append_assoc, List.singleton_append,
        splitLines_append areLines.1, induction areLines.2]

/-! ## A JSON text is a line -/

/-- No control characters. -/
def Printable (text : List Char) : Prop :=
  ∀ character ∈ text, 32 ≤ character.toNat

theorem isLine_utf8 {text : List Char} (printable : Printable text) :
    IsLine (utf8 text) := by
  intro byte member
  constructor
  all_goals
    rintro rfl
    obtain ⟨character, inside, same⟩ := Utf8.ascii_mem_utf8 member (by decide)
    have large := printable character inside
    rw [same] at large
    exact absurd large (by decide)

private theorem printable_escape (text : List Char) :
    Printable (escape text) := by
  have hexadecimal : ∀ digit < 16, 32 ≤ (Nat.digitChar digit).toNat := by
    decide
  intro character member
  obtain ⟨source, -, member⟩ := List.mem_flatMap.mp member
  unfold escapeChar at member
  split_ifs at member with quote backslash newline feed tab form back control
  pick_goal 9
  · rw [List.mem_singleton.mp member]
    exact not_lt.mp control
  all_goals simp only [List.mem_cons, List.not_mem_nil, or_false] at member
  pick_goal 8
  · rcases member with rfl | rfl | rfl | rfl | rfl | rfl
    · decide
    · decide
    · decide
    · decide
    · exact hexadecimal _ (by omega)
    · exact hexadecimal _ (by omega)
  all_goals
    rcases member with rfl | rfl
    all_goals decide

private theorem printable_numeric {text : List Char}
    (numeric : ∀ character ∈ text, isNumeric character) : Printable text := by
  intro character member
  have kind := numeric character member
  simp only [isNumeric, Bool.or_eq_true, Char.isDigit, decide_eq_true_eq,
    List.mem_cons, List.not_mem_nil, or_false, Bool.and_eq_true] at kind
  rcases kind with ⟨low, -⟩ | rfl | rfl | rfl | rfl
  · exact le_trans (by decide) (show 48 ≤ character.toNat from low)
  all_goals decide

theorem Printable.append {left right : List Char} (first : Printable left)
    (second : Printable right) : Printable (left ++ right) :=
  List.forall_mem_append.mpr ⟨first, second⟩

theorem Printable.cons {character : Char} {text : List Char}
    (first : 32 ≤ character.toNat) (rest : Printable text) :
    Printable (character :: text) :=
  List.forall_mem_cons.mpr ⟨first, rest⟩

theorem printable_quoted (text : String) : Printable (quoted text) := by
  rw [quoted]
  exact ((printable_escape _).cons (by decide)).append
    (List.forall_mem_singleton.mpr (by decide))

private theorem printable_commas {texts : List (List Char)}
    (printable : ∀ text ∈ texts, Printable text) :
    Printable (commas texts) := by
  cases texts with
  | nil => exact List.forall_mem_nil _
  | cons text texts =>
      rw [List.forall_mem_cons] at printable
      refine printable.1.append fun character member => ?_
      obtain ⟨other, inside, member⟩ := List.mem_flatMap.mp member
      exact (printable.2 other inside).cons (by decide) character member

namespace Json

variable {floats : FloatText}

mutual

theorem printable_text : ∀ value : Json, Printable (text floats value)
  | .null => by simp [text, Printable]
  | .bool true => by simp [text, Printable]
  | .bool false => by simp [text, Printable]
  | .int value => by
      rw [text_int]
      exact printable_numeric (intText_numeric value)
  | .float (.finite value) => by
      rw [text]
      exact printable_numeric (floats.numeric value)
  | .float .infinity => by simp [text, Printable]
  | .float .negativeInfinity => by simp [text, Printable]
  | .float .nan => by simp [text, Printable]
  | .str value => by
      rw [text]
      exact printable_quoted value
  | .array items => by
      rw [text_array]
      refine Printable.cons (by decide) (Printable.append
        (printable_commas ?_) (List.forall_mem_singleton.mpr (by decide)))
      exact List.forall_mem_map.mpr (printable_items items)
  | .object entries => by
      rw [text_object]
      refine Printable.cons (by decide) (Printable.append
        (printable_commas ?_) (List.forall_mem_singleton.mpr (by decide)))
      refine List.forall_mem_map.mpr fun entry member => ?_
      have inside : entry ∈ entries :=
        (List.perm_insertionSort _ entries).mem_iff.mp member
      exact (printable_quoted entry.1).append
        ((printable_entries entries entry inside).cons (by decide))

theorem printable_items : ∀ items : List Json, ∀ item ∈ items,
    Printable (text floats item)
  | [] => by simp
  | item :: rest => by
      rw [List.forall_mem_cons]
      exact ⟨printable_text item, printable_items rest⟩

theorem printable_entries : ∀ entries : List (String × Json),
    ∀ entry ∈ entries, Printable (text floats entry.2)
  | [] => by simp
  | (_, value) :: rest => by
      rw [List.forall_mem_cons]
      exact ⟨printable_text value, printable_entries rest⟩

end

theorem isLine_text (value : Json) : IsLine (utf8 (text floats value)) :=
  isLine_utf8 (printable_text value)

end Json

end RagBench
