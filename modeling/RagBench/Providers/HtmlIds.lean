import RagBench.JoinedText
import RagBench.Providers.Messages

/-!
# Renumbered element ids in HTML

No attribute reaches over a line break, so the ids of joined texts are
renumbered text by text.
-/

namespace RagBench

/-- `\w` and `\d` do not match a line break. -/
structure Platform.BreaksLines (platform : Platform) : Prop where
  notWord : platform.isWordCharacter '\n' = false
  notDigit : platform.isDigit '\n' = false

variable {platform : Platform} (breaks : platform.BreaksLines)

section

include breaks

private theorem digitsOf_append (text rest : List Char) :
    digitsOf platform (text ++ '\n' :: rest) =
      ((digitsOf platform text).1,
        (digitsOf platform text).2 ++ '\n' :: rest) := by
  induction text with
  | nil => simp [digitsOf, breaks.notDigit]
  | cons first text induction =>
      rw [List.cons_append, digitsOf, digitsOf]
      split_ifs
      · rw [induction]
      · rfl

/-- A line break ends an attribute. -/
private theorem matchIdAttribute_append (previous : Option Char)
    (first : Char) (text rest : List Char) :
    matchIdAttribute platform previous (first :: text ++ '\n' :: rest) =
      matchIdAttribute platform previous (first :: text) := by
  by_cases shape : ∃ quote tail, first :: text =
      'i' :: 'd' :: '=' :: quote :: tail
  · obtain ⟨quote, tail, same⟩ := shape
    rw [same]
    simp only [matchIdAttribute, List.cons_append, digitsOf_append breaks]
    by_cases quoted : quote = '\'' ∨ quote = '"'
    · have head : ((digitsOf platform tail).2 ++ '\n' :: rest).head? =
          some quote ↔ (digitsOf platform tail).2.head? = some quote := by
        cases (digitsOf platform tail).2 with
        | nil => rcases quoted with rfl | rfl <;> simp
        | cons => rfl
      simp only [head]
    · simp only [quoted, false_and, and_false, if_false]
  · have none : matchIdAttribute platform previous (first :: text) = none := by
      unfold matchIdAttribute
      split
      · rename_i quote tail same
        exact absurd ⟨quote, tail, same⟩ shape
      · rfl
    rw [none]
    unfold matchIdAttribute
    split
    · rename_i quote tail same
      -- Only the quote can be the line break itself.
      rcases text with _ | ⟨second, _ | ⟨third, _ | ⟨fourth, text⟩⟩⟩
      · simp at same
      · simp at same
      · obtain rfl : '\n' = quote := by simp at same; exact same.2.2.2.1
        simp
      · simp only [List.cons_append, List.cons.injEq] at same
        obtain ⟨rfl, rfl, rfl, rfl, _⟩ := same
        exact absurd ⟨_, _, rfl⟩ shape
    · rfl

end

/-- Nothing precedes a text, or a line break does. -/
private theorem matchIdAttribute_start (breaks : platform.BreaksLines)
    (text : List Char) :
    matchIdAttribute platform (some '\n') text =
      matchIdAttribute platform none text := by
  unfold matchIdAttribute
  split
  · simp [breaks.notWord]
  · rfl

private theorem offsetHtmlIdsFrom_start (breaks : platform.BreaksLines)
    (offset : ℤ) (text : List Char) :
    offsetHtmlIdsFrom platform offset (some '\n') 0 text =
      offsetHtmlIdsFrom platform offset none 0 text := by
  cases text with
  | nil => rfl
  | cons first rest =>
      rw [offsetHtmlIdsFrom, offsetHtmlIdsFrom,
        matchIdAttribute_start breaks]

theorem digitsOf_split (platform : Platform) (text : List Char) :
    (digitsOf platform text).1 ++ (digitsOf platform text).2 = text := by
  induction text with
  | nil => rfl
  | cons first text induction =>
      rw [digitsOf]
      split_ifs
      · rw [List.cons_append, induction]
      · rfl

/-- An attribute is as long as its quote and digits say. -/
private theorem matchIdAttribute_length {previous : Option Char}
    {first : Char} {text : List Char} {quote : Char} {digits : List Char}
    (found : matchIdAttribute platform previous (first :: text) =
      some (quote, digits)) : digits.length + 4 ≤ text.length := by
  unfold matchIdAttribute at found
  split at found
  · rename_i quote' rest same
    dsimp only at found
    split_ifs at found with matched
    cases found
    obtain ⟨_, rfl⟩ := List.cons.inj same
    have whole := congrArg List.length (digitsOf_split platform rest)
    have closed : 0 < (digitsOf platform rest).2.length := by
      rw [List.length_pos_iff]
      intro none
      rw [none] at matched
      simp at matched
    simp only [List.length_append] at whole
    simp only [List.length_cons]
    omega
  · cases found

/-- Two texts with a line break between them are renumbered one by one. -/
private theorem offsetHtmlIdsFrom_append (breaks : platform.BreaksLines)
    (offset : ℤ) (text rest : List Char) (previous : Option Char) (skip : ℕ)
    (inside : skip ≤ text.length) :
    offsetHtmlIdsFrom platform offset previous skip (text ++ '\n' :: rest) =
      (do
        let first ← offsetHtmlIdsFrom platform offset previous skip text
        let second ← offsetHtmlIdsFrom platform offset none 0 rest
        return first ++ '\n' :: second) := by
  induction text generalizing previous skip with
  | nil =>
      obtain rfl : skip = 0 := by simpa using inside
      rw [List.nil_append, offsetHtmlIdsFrom, offsetHtmlIdsFrom,
        ← offsetHtmlIdsFrom_start breaks offset rest]
      rfl
  | cons first text induction =>
      cases skip with
      | succ skip =>
          rw [List.cons_append, offsetHtmlIdsFrom, offsetHtmlIdsFrom]
          exact induction (some first) skip (by simpa using inside)
      | zero =>
          have same := matchIdAttribute_append breaks previous first text rest
          rw [List.cons_append] at same ⊢
          rw [offsetHtmlIdsFrom, offsetHtmlIdsFrom, same]
          cases found : matchIdAttribute platform previous (first :: text) with
          | none =>
              dsimp only
              rw [induction (some first) 0 (Nat.zero_le _)]
              cases offsetHtmlIdsFrom platform offset (some first) 0 text with
              | error => rfl
              | ok early =>
                  cases offsetHtmlIdsFrom platform offset none 0 rest <;> rfl
          | some matched =>
              obtain ⟨quote, digits⟩ := matched
              dsimp only
              rw [induction (some first) _ (matchIdAttribute_length found)]
              cases platform.parseInt (String.ofList digits) with
              | none => rfl
              | some number =>
                  dsimp only
                  cases offsetHtmlIdsFrom platform offset (some first)
                    (digits.length + 4) text with
                  | error => rfl
                  | ok early =>
                      cases offsetHtmlIdsFrom platform offset none 0 rest with
                      | error => rfl
                      | ok late =>
                          simp [bind, Except.bind, pure, Except.pure]

theorem offsetHtmlIds_empty (offset : ℤ) :
    offsetHtmlIds platform "" offset = .ok "" :=
  rfl

/-- Renumbering leaves no text empty. -/
theorem offsetHtmlIds_ne_empty {html renumbered : String} {offset : ℤ}
    (success : offsetHtmlIds platform html offset = .ok renumbered)
    (filled : html ≠ "") : renumbered ≠ "" := by
  obtain ⟨chars, found, same⟩ := bind_eq_ok.mp success
  cases same
  cases shape : html.toList with
  | nil => exact absurd (String.toList_inj.mp shape) filled
  | cons first rest =>
      rw [shape, offsetHtmlIdsFrom] at found
      have nonempty : chars ≠ [] := by
        split at found
        · split at found
          · obtain ⟨_, _, last⟩ := bind_eq_ok.mp found
            cases last
            simp
          · cases found
        · obtain ⟨_, _, last⟩ := bind_eq_ok.mp found
          cases last
          simp
      simpa using nonempty

theorem offsetHtmlIds_eq_empty_iff {html renumbered : String} {offset : ℤ}
    (success : offsetHtmlIds platform html offset = .ok renumbered) :
    renumbered = "" ↔ html = "" := by
  constructor
  · exact not_imp_not.mp (offsetHtmlIds_ne_empty success)
  · rintro rfl
    exact (Except.ok.inj success).symm

theorem offsetHtmlIds_intercalate (breaks : platform.BreaksLines)
    {offset : ℤ} {texts renumbered : List String}
    (each : List.Forall₂ (fun text result =>
      offsetHtmlIds platform text offset = .ok result) texts renumbered) :
    offsetHtmlIds platform ("\n".intercalate texts) offset =
      .ok ("\n".intercalate renumbered) := by
  induction each with
  | nil => rfl
  | @cons text result texts renumbered first rest induction =>
      cases rest with
      | nil => simpa using first
      | @cons next next' texts renumbered second rest =>
          obtain ⟨chars, found, same⟩ := bind_eq_ok.mp first
          obtain ⟨others, later, same'⟩ := bind_eq_ok.mp induction
          cases same
          rw [String.intercalate_cons_cons, String.intercalate_cons_cons]
          have split : (text ++ "\n" ++
              "\n".intercalate (next :: texts)).toList =
                text.toList ++ '\n' ::
                  ("\n".intercalate (next :: texts)).toList := by
            simp
          refine bind_eq_ok.mpr ⟨chars ++ '\n' :: others, ?_, ?_⟩
          · rw [split, offsetHtmlIdsFrom_append breaks _ _ _ _ 0
              (Nat.zero_le _), found, later]
            rfl
          · rw [← Except.ok.inj same']
            congr 1
            apply String.toList_inj.mp
            simp

end RagBench
