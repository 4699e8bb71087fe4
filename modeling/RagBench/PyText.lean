import Mathlib.Data.List.DropRight

/-!
# Texts of the language

Stripping removes the characters that `str.isspace` knows from both ends.
-/

namespace RagBench

/-- `character.isspace()`. -/
def isSpace (character : Char) : Bool :=
  let code := character.toNat
  (9 ≤ code ∧ code ≤ 13) ∨ (28 ≤ code ∧ code ≤ 32) ∨
    (0x2000 ≤ code ∧ code ≤ 0x200A) ∨
    code ∈ [0x85, 0xA0, 0x1680, 0x2028, 0x2029, 0x202F, 0x205F, 0x3000]

/-- `text.strip()`. -/
def strip (text : String) : String :=
  String.ofList ((text.toList.dropWhile isSpace).rdropWhile isSpace)

private theorem dropWhile_rdropWhile (characters : List Char) :
    ((characters.dropWhile isSpace).rdropWhile isSpace).dropWhile isSpace =
      (characters.dropWhile isSpace).rdropWhile isSpace := by
  cases kept : (characters.dropWhile isSpace).rdropWhile isSpace with
  | nil => rfl
  | cons first rest =>
      obtain ⟨tail, whole⟩ := List.rdropWhile_prefix (p := isSpace)
        (characters.dropWhile isSpace)
      rw [kept, List.cons_append] at whole
      have nonempty : characters.dropWhile isSpace ≠ [] := by
        rw [← whole]
        exact List.cons_ne_nil _ _
      have outside := List.head_dropWhile_not isSpace nonempty
      simp only [← whole, List.head_cons] at outside
      rw [List.dropWhile_cons_of_neg (by simp [outside])]

theorem strip_strip (text : String) : strip (strip text) = strip text := by
  unfold strip
  rw [String.toList_ofList, dropWhile_rdropWhile, List.rdropWhile_idempotent]

/-- A text without spaces is stripped. -/
theorem strip_eq_self {text : String}
    (printed : ∀ character ∈ text.toList, isSpace character = false) :
    strip text = text := by
  have front : text.toList.dropWhile isSpace = text.toList := by
    cases shape : text.toList with
    | nil => rfl
    | cons first rest =>
        have outside := printed first (by simp [shape])
        rw [List.dropWhile_cons_of_neg (by simp [outside])]
  have back : text.toList.rdropWhile isSpace = text.toList := by
    rw [List.rdropWhile_eq_self_iff]
    intro nonempty
    simp [printed _ (List.getLast_mem nonempty)]
  rw [strip, front, back, String.ofList_toList]

/-- The pattern `^[0-9a-f]{64}$`. -/
def isHexDigest (text : String) : Bool :=
  text.toList.length = 64 ∧ text.toList.all fun character =>
    ('0' ≤ character ∧ character ≤ '9') ∨ ('a' ≤ character ∧ character ≤ 'f')

/-- The pattern `^[0-9a-f]{7,40}$`. -/
def isCommit (text : String) : Bool :=
  (7 ≤ text.toList.length ∧ text.toList.length ≤ 40) ∧
    text.toList.all fun character =>
      ('0' ≤ character ∧ character ≤ '9') ∨
        ('a' ≤ character ∧ character ≤ 'f')

end RagBench
